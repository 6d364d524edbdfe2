import WorkWithMe.Server.Hub

/-!
# How the failure of an agent reaches the client

The agent task of a prompt sends its events through one channel and its error through another.
`handle_prompt` forwards events until the first channel closes, then looks once into the second
one, then sends `prompt_complete`.  But the first channel closes when `prompt_with_abort` drops its
callback, and the error is sent by a later step of the task.

* `Reported` follows the frames of one call along a schedule: plain frames, then the error frame if
  there is one, then `prompt_complete`, then plain frames again.
* `agentError_precedes_iff` is the law over a run: the client is told of the error before
  `prompt_complete` if and only if the task sends it before the handler looks.
* `not_agentError_precedes_of_exec` is a run in which the handler looks first.
-/

set_option autoImplicit false

namespace WorkWithMe.Server

variable {Event : Type} {authToken : String → Option String}
  {toWs : Event → SessionId → Option Json}

/-! ## Where a call is with respect to its report -/

/-- The handler has not come to the run yet. -/
def Phase.early : Phase → Bool
  | .opening _ | .running _ .insertAbort | .running _ .spawn => true
  | _ => false

/-- The handler has not looked into the error channel yet. -/
def Phase.beforeReport : Phase → Bool
  | .opening _ | .running _ .insertAbort | .running _ .spawn | .running _ .forward
  | .running _ .report => true
  | _ => false

/-- The handler has looked into the error channel. -/
def Phase.afterReport : Phase → Bool
  | .running _ .complete | .running _ .cleanup | .running _ .label | .running _ .done => true
  | _ => false

/-- The handler has sent `prompt_complete`. -/
def Phase.afterComplete : Phase → Bool
  | .running _ .cleanup | .running _ .label | .running _ .done => true
  | _ => false

theorem Phase.afterReport_of_afterComplete {p : Phase} (h : p.afterComplete = true) :
    p.afterReport = true := by
  unfold Phase.afterComplete at h
  split at h <;> first | rfl | cases h

/-- A frame that is neither an error nor the end of a prompt. -/
def Frame.plain : Frame → Bool
  | .event _ | .chatCleared _ _ | .sessionLabelUpdated _ _ => true
  | .error _ | .promptComplete _ => false

theorem plain_of_mem_eventFrames {s : SessionId} {e : Event} {f : Frame}
    (h : f ∈ eventFrames toWs s e) : f.plain = true := by
  rw [eventFrames, Option.mem_toList, Option.map_eq_some_iff] at h
  obtain ⟨payload, -, rfl⟩ := h
  rfl

theorem plain_of_mem_labelFrames {s : SessionId} {text : Option String} {f : Frame}
    (h : f ∈ labelFrames s text) : f.plain = true := by
  rw [labelFrames, Option.mem_toList, Option.map_eq_some_iff] at h
  obtain ⟨label, -, rfl⟩ := h
  rfl

theorem mem_errorFrames {errors : Option String} {e : String} :
    agentError e ∈ errorFrames errors ↔ errors = some e := by
  simp [errorFrames, agentError, Frame.error.injEq, String.append_right_inj]

theorem promptComplete_notMem_errorFrames {errors : Option String} {s : SessionId} :
    Frame.promptComplete s ∉ errorFrames errors := by
  simp [errorFrames, agentError]

/-! ## The frames of one call -/

/-- **The frames of a call whose client is connected**, along the schedule `as`. -/
structure Reported (c : CallId) (as : List (Action Event)) (k : Call Event) : Prop where
  /-- Nothing has been sent by a task that is not there. -/
  early : k.phase.early = true → k.task = .unspawned
  /-- The error channel holds something when the task has sent it. -/
  sent : .agent c .sendErr ∈ as ↔ k.errors ≠ none
  /-- What it holds is what `prompt_with_abort` returned. -/
  result : ∀ e, k.errors = some e → k.task.result = some (.error e)
  /-- Up to the report all frames are plain. -/
  before : k.phase.beforeReport = true →
    .handler c .report ∉ as ∧ ∀ f ∈ k.delivered, f.plain = true
  /-- After it there is the error frame, if the error was there in time. -/
  after : k.phase.afterReport = true → ∃ (ds rest : List Frame) (found : Option String),
    (∀ f ∈ ds, f.plain = true) ∧ (∀ f ∈ rest, f.plain = true) ∧
    (Machine.Precedes (.agent c .sendErr) (.handler c .report) as ↔ found ≠ none) ∧
    (∀ e, found = some e → k.errors = some e) ∧
    k.delivered = ds ++ errorFrames found ++
      if k.phase.afterComplete then .promptComplete k.session :: rest else []
  /-- `prompt_complete` is sent once all of this is over. -/
  complete : ∀ s, .promptComplete s ∈ k.delivered → k.phase.afterComplete = true

section Step

variable {c : CallId} {as : List (Action Event)} {k k' : Call Event} {a : Action Event}

/-- A step that is neither the sending of the error nor the report, that leaves the call on its side
of both, and that sends plain frames only, carries `Reported` on. -/
theorem Reported.of_quiet (hR : Reported c as k) (hs : a ≠ .agent c .sendErr)
    (hr : a ≠ .handler c .report) (hsession : k'.session = k.session)
    (herrors : k'.errors = k.errors)
    (hearly : k'.phase.early = true → k'.task = .unspawned)
    (hresult : ∀ e, k.task.result = some (.error e) → k'.task.result = some (.error e))
    (hbefore : k'.phase.beforeReport = true → k.phase.beforeReport = true)
    (hafter : k'.phase.afterReport = k.phase.afterReport)
    (hcomplete : k'.phase.afterComplete = k.phase.afterComplete) (fs : List Frame)
    (hfs : ∀ f ∈ fs, f.plain = true) (hdel : k'.delivered = k.delivered ++ fs)
    (hlate : k.phase.afterReport = true → k.phase.afterComplete = false → fs = []) :
    Reported c (as ++ [a]) k' where
  early := hearly
  sent := by
    rw [herrors, ← hR.sent]
    simp [Ne.symm hs]
  result e he := hresult e (hR.result e (herrors ▸ he))
  before hb := by
    obtain ⟨hrep, hplain⟩ := hR.before (hbefore hb)
    refine ⟨by simp [hrep, Ne.symm hr], fun f hf ↦ ?_⟩
    rw [hdel, List.mem_append] at hf
    exact hf.elim (hplain f) (hfs f)
  after ha := by
    obtain ⟨ds, rest, found, hds, hrest, hprec, hfound, hdel'⟩ := hR.after (hafter ▸ ha)
    refine ⟨ds, rest ++ fs, found, hds, ?_, ?_, fun e he ↦ herrors.trans (hfound e he), ?_⟩
    · intro f hf
      exact (List.mem_append.mp hf).elim (hrest f) (hfs f)
    · rw [Machine.precedes_concat, hprec]
      simp [hr]
    · rw [hdel, hdel', hcomplete, hsession]
      by_cases hc : k.phase.afterComplete = true
      · simp [hc]
      · rw [hlate (hafter ▸ ha) (by simpa using hc)]
        simp [hc]
  complete s hs' := by
    rw [hcomplete]
    rw [hdel, List.mem_append] at hs'
    rcases hs' with hs' | hs'
    · exact hR.complete s hs'
    · cases hfs _ hs'

/-- A call that returns without a run carries `Reported` on. -/
theorem Reported.of_returned (hR : Reported c as k) (hs : a ≠ .agent c .sendErr)
    (hp : k'.phase = .returned) (hk : k.phase.afterComplete = false)
    (herrors : k'.errors = k.errors) (htask : k'.task = k.task) {fs : List Frame}
    (hfs : ∀ s, .promptComplete s ∉ fs) (hdel : k'.delivered = k.delivered ++ fs) :
    Reported c (as ++ [a]) k' where
  early h := by simp [hp, Phase.early] at h
  sent := by
    rw [herrors, ← hR.sent]
    simp [Ne.symm hs]
  result e he := by
    rw [htask]
    exact hR.result e (herrors ▸ he)
  before h := by simp [hp, Phase.beforeReport] at h
  after h := by simp [hp, Phase.afterReport] at h
  complete s hs' := by
    rw [hdel, List.mem_append] at hs'
    rcases hs' with hs' | hs'
    · have hc := hR.complete s hs'
      rw [hk] at hc
      cases hc
    · exact absurd hs' (hfs s)

/-- A step that leaves the handler where it is carries `Reported` on. -/
theorem Reported.of_silent (hR : Reported c as k) (hs : a ≠ .agent c .sendErr)
    (hr : a ≠ .handler c .report) (hsession : k'.session = k.session)
    (hphase : k'.phase = k.phase) (herrors : k'.errors = k.errors)
    (hdel : k'.delivered = k.delivered) (htask : k.task = .unspawned → k'.task = .unspawned)
    (hresult : ∀ e, k.task.result = some (.error e) → k'.task.result = some (.error e)) :
    Reported c (as ++ [a]) k' :=
  hR.of_quiet hs hr hsession herrors (fun h ↦ htask (hR.early (hphase ▸ h))) hresult
    (fun h ↦ hphase ▸ h) (by rw [hphase]) (by rw [hphase]) [] (by simp)
    (by rw [hdel, List.append_nil]) fun _ _ ↦ rfl

/-- The report is where the two orders meet: it finds what has been sent before it. -/
theorem Reported.of_report (hR : Reported c as k) {h : PiSessionHandle}
    (hp : k.phase = .running h .report) :
    Reported c (as ++ [.handler c .report])
      ((k.send true (errorFrames k.errors)).goto h .complete) where
  early hc := by cases hc
  sent := by
    show _ ↔ k.errors ≠ none
    rw [← hR.sent]
    simp
  result e he := hR.result e he
  before hc := by cases hc
  after _ := by
    obtain ⟨hrep, hplain⟩ := hR.before (by rw [hp]; rfl)
    refine ⟨k.delivered, [], k.errors, hplain, by simp, ?_, fun e he ↦ he, by simp [Call.send,
      Call.goto, Phase.afterComplete]⟩
    rw [Machine.precedes_concat, ← hR.sent]
    simp only [true_and]
    exact ⟨fun h' ↦ h'.elim (fun hprec ↦ absurd hprec.mem_right hrep) id, Or.inr⟩
  complete s hs := by
    have hs' : .promptComplete s ∈ k.delivered ++ errorFrames k.errors := hs
    rcases List.mem_append.mp hs' with hs' | hs'
    · have hc := hR.complete s hs'
      rw [hp] at hc
      cases hc
    · exact absurd hs' promptComplete_notMem_errorFrames

/-- `prompt_complete` comes after the report. -/
theorem Reported.of_complete (hR : Reported c as k) {h : PiSessionHandle}
    (hp : k.phase = .running h .complete) :
    Reported c (as ++ [.handler c .complete])
      ((k.send true [.promptComplete k.session]).goto h .cleanup) where
  early hc := by cases hc
  sent := by
    show _ ↔ k.errors ≠ none
    rw [← hR.sent]
    simp
  result e he := hR.result e he
  before hc := by cases hc
  after _ := by
    obtain ⟨ds, rest, found, hds, -, hprec, hfound, hdel⟩ := hR.after (by rw [hp]; rfl)
    refine ⟨ds, [], found, hds, by simp, ?_, hfound, ?_⟩
    · rw [Machine.precedes_concat, hprec]
      simp
    · simp [Call.send, Call.goto, Phase.afterComplete, hdel, hp]
  complete s _ := rfl

/-- The steps of the handler. -/
theorem Reported.of_handler (hR : Reported c as k) {h : PiSessionHandle} {stage : Stage}
    {b : HandlerAction} {app app' : AppState} (hp : k.phase = .running h stage)
    (hh : Handled toWs true app c k h stage b app' k') :
    Reported c (as ++ [.handler c b]) k' := by
  cases hh with
  | insertAbort =>
    exact hR.of_quiet (by simp) (by simp) rfl rfl (fun _ ↦ hR.early (by rw [hp]; rfl))
      (fun _ h ↦ h) (fun _ ↦ by rw [hp]; rfl) (by rw [hp]; rfl) (by rw [hp]; rfl) []
      (by simp) (by simp [Call.goto]) fun _ _ ↦ rfl
  | spawn =>
    have htask := hR.early (by rw [hp]; rfl)
    exact hR.of_quiet (by simp) (by simp) rfl rfl (fun hc ↦ by cases hc)
      (fun e he ↦ by simp [htask, Task.result] at he) (fun _ ↦ by rw [hp]; rfl) (by rw [hp]; rfl)
      (by rw [hp]; rfl) [] (by simp) (by simp [Call.goto]) fun _ _ ↦ rfl
  | forward e queue hq =>
    exact hR.of_quiet (by simp) (by simp) rfl rfl (fun hc ↦ by cases hc) (fun _ h ↦ h)
      (fun _ ↦ by rw [hp]; rfl) (by rw [hp]; rfl) (by rw [hp]; rfl) _
      (fun f hf ↦ plain_of_mem_eventFrames hf) rfl fun hc ↦ by simp [hp, Phase.afterReport] at hc
  | forwardFails e queue hq hoff => cases hoff
  | loopClosed hq hs =>
    exact hR.of_quiet (by simp) (by simp) rfl rfl (fun hc ↦ by cases hc) (fun _ h ↦ h)
      (fun _ ↦ by rw [hp]; rfl) (by rw [hp]; rfl) (by rw [hp]; rfl) [] (by simp)
      (by simp [Call.goto]) fun _ _ ↦ rfl
  | report => exact hR.of_report hp
  | complete => exact hR.of_complete hp
  | cleanup =>
    exact hR.of_quiet (by simp) (by simp) rfl rfl (fun hc ↦ by cases hc) (fun _ h ↦ h)
      (fun hc ↦ by cases hc) (by rw [hp]; rfl) (by rw [hp]; rfl) [] (by simp)
      (by simp [Call.goto]) fun _ _ ↦ rfl
  | label text =>
    exact hR.of_quiet (by simp) (by simp) rfl rfl (fun hc ↦ by cases hc) (fun _ h ↦ h)
      (fun hc ↦ by cases hc) (by rw [hp]; rfl) (by rw [hp]; rfl) _
      (fun f hf ↦ plain_of_mem_labelFrames hf) rfl
      fun _ hc ↦ by simp [hp, Phase.afterComplete] at hc

/-- The sending of the error. -/
theorem Reported.of_sendErr (hR : Reported c as k) {e : String}
    (ht : k.task = .settled (.error e)) :
    Reported c (as ++ [.agent c .sendErr]) { k with task := .reported e, errors := some e } where
  early hc := by
    have hu := hR.early hc
    rw [ht] at hu
    cases hu
  sent := by simp
  result e' he := congrArg (fun m ↦ some (TurnResult.error m)) (Option.some.inj he)
  before hb := by
    obtain ⟨hrep, hplain⟩ := hR.before hb
    exact ⟨by simp [hrep], hplain⟩
  after ha := by
    obtain ⟨ds, rest, found, hds, hrest, hprec, hfound, hdel⟩ := hR.after ha
    refine ⟨ds, rest, found, hds, hrest, ?_, fun e' he' ↦ ?_, hdel⟩
    · rw [Machine.precedes_concat, hprec]
      simp
    · -- what the report has found is the error of this task
      have hres := hR.result e' (hfound e' he')
      rw [ht, Task.result, Option.some_inj, TurnResult.error.injEq] at hres
      exact congrArg some hres
  complete := hR.complete

/-- The steps of the agent task. -/
theorem Reported.of_agent (hR : Reported c as k) {h : PiSessionHandle} {b : AgentAction Event}
    {ag ag' : Agents} (ha : Acted ag c k h k.task b ag' k') :
    Reported c (as ++ [.agent c b]) k' := by
  generalize ht : k.task = t at ha
  cases ha with
  | sendErr e => exact hR.of_sendErr ht
  | acquire hfree =>
    exact hR.of_silent (by simp) (by simp) rfl rfl rfl rfl (by simp [ht])
      (by simp [ht, Task.result])
  | emit e hs =>
    exact hR.of_silent (by simp) (by simp) rfl rfl rfl rfl (fun h ↦ h) fun _ h ↦ h
  | dropCallback =>
    exact hR.of_silent (by simp) (by simp) rfl rfl rfl rfl (fun h ↦ h) fun _ h ↦ h
  | settle r =>
    exact hR.of_silent (by simp) (by simp) rfl rfl rfl rfl (by simp [ht])
      (by simp [ht, Task.result])
  | finishOk =>
    exact hR.of_silent (by simp) (by simp) rfl rfl rfl rfl (by simp [ht])
      (by simp [ht, Task.result])
  | finishError e =>
    exact hR.of_silent (by simp) (by simp) rfl rfl rfl rfl (by simp [ht])
      (by simp [ht, Task.result])

/-- The steps on the way to a handle. -/
theorem Reported.of_opened (hR : Reported c as k) {o : Opening} (hp : k.phase = .opening o)
    (b : OpenAction) (r : Opened) : Reported c (as ++ [.opening c b]) (k.opened true r) := by
  have htask := hR.early (by rw [hp]; rfl)
  cases r with
  | pending o' =>
    exact hR.of_quiet (by simp) (by simp) rfl rfl (fun _ ↦ htask) (fun _ h ↦ h)
      (fun _ ↦ by rw [hp]; rfl) (by rw [hp]; rfl) (by rw [hp]; rfl) [] (by simp)
      (by simp [Call.opened]) fun _ _ ↦ rfl
  | handle h =>
    rw [Call.opened]
    split
    · exact hR.of_quiet (by simp) (by simp) rfl rfl (fun _ ↦ htask) (fun _ h ↦ h)
        (fun _ ↦ by rw [hp]; rfl) (by rw [hp]; rfl) (by rw [hp]; rfl) [] (by simp)
        (by simp [Call.goto]) fun _ _ ↦ rfl
    · exact hR.of_quiet (by simp) (by simp) rfl rfl (fun _ ↦ htask) (fun _ h ↦ h)
        (fun hc ↦ by cases hc) (by rw [hp]; rfl) (by rw [hp]; rfl) [] (by simp)
        (by simp) fun _ _ ↦ rfl
  | failed message =>
    exact hR.of_returned (by simp) rfl (by rw [hp]; rfl) rfl rfl (fun s ↦ by simp) rfl

/-- The start of a call of which nothing has been heard before. -/
theorem Reported.of_start (hs : .agent c .sendErr ∉ as) (hr : .handler c .report ∉ as)
    (has : a ≠ .agent c .sendErr) (har : a ≠ .handler c .report) (htask : k.task = .unspawned)
    (herrors : k.errors = none) (hafter : k.phase.afterReport = false)
    (hplain : k.phase.beforeReport = true → ∀ f ∈ k.delivered, f.plain = true)
    (hcomplete : ∀ s, .promptComplete s ∉ k.delivered) : Reported c (as ++ [a]) k where
  early _ := htask
  sent := by simp [hs, Ne.symm has, herrors]
  result e he := by simp [herrors] at he
  before hb := ⟨by simp [hr, Ne.symm har], hplain hb⟩
  after ha := by
    rw [hafter] at ha
    cases ha
  complete s hs' := absurd hs' (hcomplete s)

/-! ## The frames along a schedule -/

/-- The call as the schedule has left it: nothing has been heard of it, or its frames are as they
should be if its client is still connected. -/
def ReportedAt (c : CallId) (as : List (Action Event)) (hub : Hub Event) : Prop :=
  (hub.calls c = none → .agent c .sendErr ∉ as ∧ .handler c .report ∉ as) ∧
    ∀ k, hub.calls c = some k → hub.connected k.conn = true → Reported c as k

theorem reported_promptCall {online : Bool} {conn : ConnId} {msg : WsMessage} {uuid : Uuid}
    (hs : .agent c .sendErr ∉ as) (hr : .handler c .report ∉ as) :
    Reported c (as ++ [.prompt c conn msg uuid])
      (promptCall online conn msg uuid : Call Event) := by
  rw [promptCall]
  split
  · refine .of_start hs hr (by simp) (by simp) rfl rfl rfl (fun h ↦ by cases h) fun s h ↦ ?_
    cases online <;> simp [Call.send, Call.start] at h
  · split
    · refine .of_start hs hr (by simp) (by simp) rfl rfl rfl (fun _ f hf ↦ ?_) fun s h ↦ ?_
      · cases online with
        | true =>
          obtain rfl : f = .chatCleared uuid.text "" := by simpa [Call.send, Call.start] using hf
          rfl
        | false => simp [Call.send, Call.start] at hf
      · cases online <;> simp [Call.send, Call.start] at h
    · exact .of_start hs hr (by simp) (by simp) rfl rfl rfl (fun _ f hf ↦ by cases hf)
        fun s h ↦ by cases h

/-- A step that leaves the call where it is. -/
theorem ReportedAt.of_still {hub hub' : Hub Event} (hI : ReportedAt c as hub)
    (hcalls : hub'.calls c = hub.calls c)
    (hconn : ∀ conn, hub'.connected conn = true → hub.connected conn = true)
    (hs : a ≠ .agent c .sendErr) (hr : a ≠ .handler c .report) :
    ReportedAt c (as ++ [a]) hub' := by
  rw [ReportedAt, hcalls]
  refine ⟨fun h ↦ ?_, fun l hl hl' ↦ ?_⟩
  · obtain ⟨h1, h2⟩ := hI.1 h
    exact ⟨by simp [h1, Ne.symm hs], by simp [h2, Ne.symm hr]⟩
  · exact (hI.2 l hl (hconn _ hl')).of_silent hs hr rfl rfl rfl rfl id fun _ h ↦ h

/-- A step that moves the call `d` to `k'`. -/
theorem ReportedAt.of_move {hub hub' : Hub Event} {d : CallId} (hI : ReportedAt c as hub)
    (hk : hub.calls d = some k) (hcalls : hub'.calls = Function.update hub.calls d (some k'))
    (hconn : hub'.connected = hub.connected) (hc : k'.conn = k.conn)
    (hother : d ≠ c → a ≠ .agent c .sendErr ∧ a ≠ .handler c .report)
    (hself : d = c → hub.connected k.conn = true → Reported c as k → Reported c (as ++ [a]) k') :
    ReportedAt c (as ++ [a]) hub' := by
  by_cases hd : d = c
  · subst hd
    rw [ReportedAt, hcalls, Function.update_self]
    refine ⟨fun h ↦ (by cases h), fun l hl hl' ↦ ?_⟩
    obtain rfl := Option.some.inj hl
    rw [hconn, hc] at hl'
    exact hself rfl hl' (hI.2 k hk hl')
  · exact hI.of_still (by rw [hcalls, Function.update_of_ne (Ne.symm hd)]) (fun _ h ↦ hconn ▸ h)
      (hother hd).1 (hother hd).2

/-- The start of the call `d`. -/
theorem ReportedAt.of_start {hub hub' : Hub Event} {d : CallId} (hI : ReportedAt c as hub)
    (hnew : hub.calls d = none) (hcalls : hub'.calls = Function.update hub.calls d (some k'))
    (hconn : hub'.connected = hub.connected) (hs : a ≠ .agent c .sendErr)
    (hr : a ≠ .handler c .report)
    (hself : d = c → .agent c .sendErr ∉ as → .handler c .report ∉ as →
      Reported c (as ++ [a]) k') : ReportedAt c (as ++ [a]) hub' := by
  by_cases hd : d = c
  · subst hd
    rw [ReportedAt, hcalls, Function.update_self]
    refine ⟨fun h ↦ (by cases h), fun l hl _ ↦ ?_⟩
    obtain rfl := Option.some.inj hl
    exact hself rfl (hI.1 hnew).1 (hI.1 hnew).2
  · exact hI.of_still (by rw [hcalls, Function.update_of_ne (Ne.symm hd)]) (fun _ h ↦ hconn ▸ h)
      hs hr

/-- **Every step carries the frames on.** -/
theorem reportedAt_step {hub hub' : Hub Event} (hI : ReportedAt c as hub)
    (h : step authToken toWs hub a = some hub') : ReportedAt c (as ++ [a]) hub' := by
  cases step_cases h with
  | prompt d conn msg uuid hnew =>
    refine hI.of_start hnew rfl rfl (by simp) (by simp) fun hd hs hr ↦ ?_
    subst hd
    exact reported_promptCall hs hr
  | newChat d conn msg uuid hnew =>
    exact hI.of_start hnew rfl rfl (by simp) (by simp) fun _ hs hr ↦
      .of_start hs hr (by simp) (by simp) rfl rfl rfl (fun _ f hf ↦ by cases hf) fun s h ↦ by
        cases h
  | opening d b k o app r hk hp ho =>
    have hc : (k.opened (hub.connected k.conn) r).conn = k.conn := by
      cases r with
      | handle h => rw [Call.opened]; split <;> rfl
      | _ => rfl
    refine hI.of_move hk rfl rfl hc (fun _ ↦ by simp) fun hd hon hR ↦ ?_
    subst hd
    rw [hon]
    exact hR.of_opened hp b r
  | handler d b k hd stage app k' hk hp hh =>
    have hc : k'.conn = k.conn := by cases hh <;> rfl
    refine hI.of_move hk rfl rfl hc (fun hne ↦ by simp [hne]) fun he hon hR ↦ ?_
    subst he
    rw [hon] at hh
    exact hR.of_handler hp hh
  | announce d k hk hp =>
    refine hI.of_move hk rfl rfl rfl (fun _ ↦ by simp) fun he hon hR ↦ ?_
    subst he
    rw [hon]
    exact hR.of_returned (by simp) rfl (by rw [hp]; rfl) rfl rfl (fun s ↦ by simp) rfl
  | agent d b k hd stage ag k' hk hp ha =>
    have hc : k'.conn = k.conn := by
      generalize k.task = t at ha
      cases ha <;> rfl
    refine hI.of_move hk rfl rfl hc (fun hne ↦ by simp [hne]) fun he _ hR ↦ ?_
    subst he
    exact hR.of_agent ha
  | disconnect conn =>
    refine hI.of_still rfl (fun conn' h' ↦ ?_) (by simp) (by simp)
    by_cases hcc : conn' = conn
    · subst hcc
      simp at h'
    · simpa [Function.update_of_ne hcc] using h'
  | stop body fired => exact hI.of_still rfl (fun _ h ↦ h) (by simp) (by simp)
  | setModel req => exact hI.of_still rfl (fun _ h ↦ h) (by simp) (by simp)
  | setProjectCwd s cwd => exact hI.of_still rfl (fun _ h ↦ h) (by simp) (by simp)
  | dropHandle s => exact hI.of_still rfl (fun _ h ↦ h) (by simp) (by simp)

end Step

/-! ## The law over a run -/

/-- **The report of a failure.**  In a run in which `prompt_with_abort` returns the error `e` to the
task of the call `c`, the client stays connected and `prompt_complete` has reached it, the error
frame has reached it before that if and only if the task sends the error before the handler looks
into the error channel. -/
theorem agentError_precedes_iff (as : List (Action Event)) (hub : Hub Event) (c : CallId)
    (k : Call Event) (e : String)
    (hrun : Machine.exec (step authToken toWs) .init as = some hub)
    (hk : hub.calls c = some k) (hres : k.task.result = some (.error e))
    (hconn : hub.connected k.conn = true) (hsent : .promptComplete k.session ∈ k.delivered) :
    Machine.Precedes (agentError e) (.promptComplete k.session) k.delivered ↔
      Machine.Precedes (.agent c .sendErr) (.handler c .report) as := by
  have hI : ReportedAt c as hub :=
    Machine.history_of_exec (I := ReportedAt c) ⟨fun _ ↦ ⟨by simp, by simp⟩, fun k hk ↦ by cases hk⟩
      (fun _ _ _ _ hI hstep ↦ reportedAt_step hI hstep) hrun
  have hR := hI.2 k hk hconn
  have hafter := hR.complete k.session hsent
  obtain ⟨ds, rest, found, hds, hrest, hprec, hfound, hdel⟩ :=
    hR.after (Phase.afterReport_of_afterComplete hafter)
  rw [if_pos hafter] at hdel
  have hplain : ∀ {fs : List Frame}, (∀ f ∈ fs, f.plain = true) →
      .promptComplete k.session ∉ fs ∧ agentError e ∉ fs :=
    fun h ↦ ⟨fun hm ↦ absurd (h _ hm) (by simp [Frame.plain]),
      fun hm ↦ absurd (h _ hm) (by simp [agentError, Frame.plain])⟩
  rw [hdel, Machine.precedes_append_cons ?_ (hplain hrest).1, hprec, List.mem_append,
    mem_errorFrames]
  · constructor
    · rintro (hm | rfl)
      · exact absurd hm (hplain hds).2
      · simp
    · intro hne
      obtain ⟨e', he'⟩ := Option.ne_none_iff_exists'.mp hne
      -- what the handler has found is the error that `prompt_with_abort` returned
      have hres' := hR.result e' (hfound e' he')
      rw [hres, Option.some_inj, TurnResult.error.injEq] at hres'
      exact Or.inr (hres' ▸ he')
  · rw [List.mem_append]
    exact fun hm ↦ hm.elim (hplain hds).1 promptComplete_notMem_errorFrames

/-- A prompt whose agent fails, up to the end of its event loop. -/
def exampleFailure : List (Action Unit) :=
  firstPrompt 0 0 exampleMessage exampleUuid ++
    [.agent 0 .acquire, .agent 0 (.settle (.error "boom")), .handler 0 .loopClosed]

theorem agentError_precedes_iff_example :
    ∃ hub k, Machine.exec (step (fun _ ↦ none) fun (_ : Unit) _ ↦ none) .init
        (exampleFailure ++ [.agent 0 .sendErr, .handler 0 .report, .handler 0 .complete]) =
          some hub ∧ hub.calls 0 = some k ∧
      (Machine.Precedes (agentError "boom") (.promptComplete k.session) k.delivered ↔
        Machine.Precedes (.agent 0 .sendErr) (.handler 0 .report)
          (exampleFailure ++ [.agent 0 .sendErr, .handler 0 .report, .handler 0 .complete])) := by
  obtain ⟨hub, hrun, k, hk, hres, hconn, hdel⟩ : ∃ hub,
      Machine.exec (step (fun _ ↦ none) fun (_ : Unit) _ ↦ none) .init
        (exampleFailure ++ [.agent 0 .sendErr, .handler 0 .report, .handler 0 .complete]) =
          some hub ∧ ∃ k, hub.calls 0 = some k ∧ k.task.result = some (.error "boom") ∧
        hub.connected k.conn = true ∧
        k.delivered = [agentError "boom", .promptComplete k.session] :=
    ⟨_, rfl, _, rfl, rfl, rfl, rfl⟩
  exact ⟨hub, k, hrun, hk, agentError_precedes_iff _ hub 0 k "boom" hrun hk hres hconn
    (by simp [hdel])⟩

/-- **The law fails.**  The event loop ends when `prompt_with_abort` has returned, and the handler
looks into the error channel before the task has come to send its error: the client receives
`prompt_complete` and nothing else. -/
theorem not_agentError_precedes_of_exec :
    ¬ ∀ (as : List (Action Unit)) (hub : Hub Unit) (c : CallId) (k : Call Unit) (e : String),
      Machine.exec (step (fun _ ↦ none) fun _ _ ↦ none) .init as = some hub →
      hub.calls c = some k → k.task.result = some (.error e) → hub.connected k.conn = true →
      .promptComplete k.session ∈ k.delivered →
        Machine.Precedes (agentError e) (.promptComplete k.session) k.delivered := by
  intro h
  obtain ⟨hub, hrun, k, hk, hres, hconn, hdel⟩ : ∃ hub,
      Machine.exec (step (fun _ ↦ none) fun (_ : Unit) _ ↦ none) .init
        (exampleFailure ++ [.handler 0 .report, .handler 0 .complete, .agent 0 .sendErr]) =
          some hub ∧ ∃ k, hub.calls 0 = some k ∧ k.task.result = some (.error "boom") ∧
        hub.connected k.conn = true ∧ k.delivered = [.promptComplete k.session] :=
    ⟨_, rfl, _, rfl, rfl, rfl, rfl⟩
  have hprec := h _ hub 0 k "boom" hrun hk hres hconn (by simp [hdel])
  rw [hdel] at hprec
  simpa using (Machine.precedes_append_cons (l := []) (r := []) (by simp) (by simp)).mp hprec

end WorkWithMe.Server
