import WorkWithMe.Server.Hub

/-!
# One pi session for each session id

`handle_prompt` looks its session up in `session_handles`, gives the lock back, and creates and
stores a pi session when the look-up has found nothing.  The law is that this comes to one pi
session for each chat session: all prompts of a session run on the handle in the table, one at a
time, and every turn sees the conversation of all earlier ones.

* `Sound` holds in every state: it says where the handles of the table and of the calls come from,
  who holds the mutexes, and whose turns the conversations are made of.
* `oneHandle_iff_guarded` is the law over a run without `set_project`: it holds in every state the
  run reaches if and only if no call stores a handle while another prompt of its session has one
  already (`StoreGuard`).
* `not_oneHandle_of_exec` is a run of two first prompts of one session in which it fails.
-/

set_option autoImplicit false

namespace WorkWithMe.Server

variable {Event : Type} {authToken : String → Option String}
  {toWs : Event → SessionId → Option Json}

/-! ## The law -/

/-- **One pi session for each session id.** -/
structure OneHandle (hub : Hub Event) : Prop where
  /-- The handle a prompt runs on is the one in the table. -/
  stored : ∀ c k h stage, hub.calls c = some k → k.phase = .running h stage →
    hub.app.sessionHandles k.session = some h
  /-- No two agent tasks of one session run at the same time. -/
  exclusive : ∀ c d k l, hub.calls c = some k → hub.calls d = some l → k.session = l.session →
    k.task.executing = true → l.task.executing = true → c = d
  /-- The conversation a turn starts from is that of all earlier turns of its session. -/
  seesAll : ∀ c k earlier, hub.calls c = some k → k.seen = some earlier →
    ∃ later, hub.agents.history k.session = earlier ++ c :: later

/-- The condition on a step: a call stores a handle when no prompt of its session has one. -/
def StoreGuard (hub : Hub Event) : Action Event → Prop
  | .opening c .store => ∀ k, hub.calls c = some k → ∀ d l h stage, hub.calls d = some l →
      l.session = k.session → l.phase ≠ .running h stage
  | _ => True

/-! ## Where handles come from -/

/-- The call that created the handle is a call of the session, and has stored it. -/
def Origin (hub : Hub Event) (s : SessionId) (h : PiSessionHandle) : Prop :=
  ∃ l, hub.calls h.creator = some l ∧ l.session = s ∧ l.phase.isOpening = none

/-- The call is a prompt of the session, and runs on the handle that the call `x` created. -/
def Runs (hub : Hub Event) (c : CallId) (s : SessionId) (x : CallId) : Prop :=
  ∃ k h stage, hub.calls c = some k ∧ k.session = s ∧ k.phase = .running h stage ∧ h.creator = x

/-- What holds of handles, mutexes and conversations in every state. -/
structure Sound (hub : Hub Event) : Prop where
  /-- A call with an agent task has a handle. -/
  spawned : ∀ c k, hub.calls c = some k → k.task ≠ .unspawned →
    ∃ h stage, k.phase = .running h stage
  /-- A call stores the handle it has created. -/
  creator : ∀ c k h, hub.calls c = some k → k.phase = .opening (.store h) → h.creator = c
  /-- A handle in the table is of that session. -/
  table : ∀ s h, hub.app.sessionHandles s = some h → Origin hub s h
  /-- The handle of a call is of its session. -/
  running : ∀ c k h stage, hub.calls c = some k → k.phase = .running h stage →
    Origin hub k.session h
  /-- An agent task that runs holds the mutex of its handle. -/
  holds : ∀ c k h stage, hub.calls c = some k → k.phase = .running h stage →
    k.task.executing = true → hub.agents.holder h.creator = some c
  /-- The turns of a session are prompts of it. -/
  history : ∀ s c, c ∈ hub.agents.history s → ∃ x, Runs hub c s x
  /-- The turns of a pi session are prompts that run on it. -/
  conversation : ∀ x c, c ∈ hub.agents.conversation x → ∃ s, Runs hub c s x

theorem sound_init : Sound (Hub.init : Hub Event) where
  spawned c k hk := by cases hk
  creator c k h hk := by cases hk
  table s h hs := by cases hs
  running c k h stage hk := by cases hk
  holds c k h stage hk := by cases hk
  history s c hc := by cases hc
  conversation x c hc := by cases hc

section Step

variable {hub hub' : Hub Event} {a : Action Event}

theorem Origin.step {s : SessionId} {h : PiSessionHandle} (ho : Origin hub s h)
    (hstep : Server.step authToken toWs hub a = some hub') : Origin hub' s h := by
  obtain ⟨l, hl, hs, hopen⟩ := ho
  obtain ⟨l', hl', hf⟩ := follows_step hl hstep
  exact ⟨l', hl', hf.session.trans hs, hf.opened hopen⟩

theorem Runs.step {c : CallId} {s : SessionId} {x : CallId} (hr : Runs hub c s x)
    (hstep : Server.step authToken toWs hub a = some hub') : Runs hub' c s x := by
  obtain ⟨k, h, stage, hk, hs, hp, hx⟩ := hr
  obtain ⟨k', hk', hf⟩ := follows_step hk hstep
  obtain ⟨stage', hp'⟩ := hf.running h stage hp
  exact ⟨k', h, stage', hk', hf.session.trans hs, hp', hx⟩

/-- A call without a handle has no agent task. -/
theorem Sound.unspawned (hS : Sound hub) {c : CallId} {k : Call Event} (hk : hub.calls c = some k)
    (hp : ∀ h stage, k.phase ≠ .running h stage) : k.task = .unspawned := by
  by_contra ht
  obtain ⟨h, stage, hrun⟩ := hS.spawned c k hk ht
  exact hp h stage hrun

/-- What a step that moves one call has to show. -/
theorem Sound.of_turn (hS : Sound hub) {c : CallId} {k' : Call Event}
    (hstep : step authToken toWs hub a = some hub')
    (hcalls : hub'.calls = Function.update hub.calls c (some k'))
    (htable : ∀ s h, hub'.app.sessionHandles s = some h → Origin hub' s h)
    (hspawned : k'.task ≠ .unspawned → ∃ h stage, k'.phase = .running h stage)
    (hcreator : ∀ h, k'.phase = .opening (.store h) → h.creator = c)
    (hrunning : ∀ h stage, k'.phase = .running h stage → Origin hub' k'.session h)
    (hholds : ∀ h stage, k'.phase = .running h stage → k'.task.executing = true →
      hub'.agents.holder h.creator = some c)
    (hothers : ∀ d l h stage, hub.calls d = some l → d ≠ c → l.phase = .running h stage →
      l.task.executing = true → hub'.agents.holder h.creator = hub.agents.holder h.creator)
    (hhistory : ∀ s d, d ∈ hub'.agents.history s →
      d ∈ hub.agents.history s ∨ ∃ x, Runs hub' d s x)
    (hconversation : ∀ x d, d ∈ hub'.agents.conversation x →
      d ∈ hub.agents.conversation x ∨ ∃ s, Runs hub' d s x) : Sound hub' where
  spawned d l hl ht := by
    rw [hcalls] at hl
    rcases calls_update_eq_some hl with ⟨-, rfl⟩ | ⟨-, hl⟩
    · exact hspawned ht
    · exact hS.spawned d l hl ht
  creator d l h hl hp := by
    rw [hcalls] at hl
    rcases calls_update_eq_some hl with ⟨rfl, rfl⟩ | ⟨-, hl⟩
    · exact hcreator h hp
    · exact hS.creator d l h hl hp
  table := htable
  running d l h stage hl hp := by
    rw [hcalls] at hl
    rcases calls_update_eq_some hl with ⟨rfl, rfl⟩ | ⟨-, hl⟩
    · exact hrunning h stage hp
    · exact (hS.running d l h stage hl hp).step hstep
  holds d l h stage hl hp hex := by
    rw [hcalls] at hl
    rcases calls_update_eq_some hl with ⟨rfl, rfl⟩ | ⟨hd, hl⟩
    · exact hholds h stage hp hex
    · rw [hothers d l h stage hl hd hp hex]
      exact hS.holds d l h stage hl hp hex
  history s d hd := by
    rcases hhistory s d hd with hd | hr
    · obtain ⟨x, hr⟩ := hS.history s d hd
      exact ⟨x, hr.step hstep⟩
    · exact hr
  conversation x d hd := by
    rcases hconversation x d hd with hd | hr
    · obtain ⟨s, hr⟩ := hS.conversation x d hd
      exact ⟨s, hr.step hstep⟩
    · exact hr

/-- What a step that moves one call and leaves the mutexes alone has to show. -/
theorem Sound.of_move (hS : Sound hub) {c : CallId} {k' : Call Event}
    (hstep : step authToken toWs hub a = some hub')
    (hcalls : hub'.calls = Function.update hub.calls c (some k'))
    (hag : hub'.agents = hub.agents)
    (htable : ∀ s h, hub'.app.sessionHandles s = some h → Origin hub' s h)
    (hspawned : k'.task ≠ .unspawned → ∃ h stage, k'.phase = .running h stage)
    (hcreator : ∀ h, k'.phase = .opening (.store h) → h.creator = c)
    (hrunning : ∀ h stage, k'.phase = .running h stage → Origin hub' k'.session h)
    (hholds : ∀ h stage, k'.phase = .running h stage → k'.task.executing = true →
      hub.agents.holder h.creator = some c) : Sound hub' :=
  hS.of_turn hstep hcalls htable hspawned hcreator hrunning
    (fun h stage hp hex ↦ by rw [hag]; exact hholds h stage hp hex)
    (fun _ _ _ _ _ _ _ _ ↦ by rw [hag])
    (fun _ _ hd ↦ Or.inl (hag ▸ hd)) fun _ _ hd ↦ Or.inl (hag ▸ hd)

/-- A handle of the table keeps its origin as long as the table stays. -/
theorem Sound.table_of_eq (hS : Sound hub) (hstep : step authToken toWs hub a = some hub')
    (happ : hub'.app.sessionHandles = hub.app.sessionHandles) (s : SessionId)
    (h : PiSessionHandle) (hs : hub'.app.sessionHandles s = some h) : Origin hub' s h :=
  (hS.table s h (happ ▸ hs)).step hstep

/-- The start of a call keeps `Sound`. -/
theorem Sound.of_start (hS : Sound hub) {c : CallId} {k' : Call Event}
    (hstep : step authToken toWs hub a = some hub')
    (hcalls : hub'.calls = Function.update hub.calls c (some k')) (hag : hub'.agents = hub.agents)
    (happ : hub'.app.sessionHandles = hub.app.sessionHandles) (htask : k'.task = .unspawned)
    (hrun : ∀ h stage, k'.phase ≠ .running h stage)
    (hstore : ∀ h, k'.phase ≠ .opening (.store h)) : Sound hub' :=
  hS.of_move hstep hcalls hag (hS.table_of_eq hstep happ) (fun ht ↦ absurd htask ht)
    (fun h hp ↦ absurd hp (hstore h)) (fun h stage hp ↦ absurd hp (hrun h stage))
    fun h stage hp ↦ absurd hp (hrun h stage)

/-- A step on the way to a handle keeps `Sound`. -/
theorem Sound.of_opening (hS : Sound hub) {c : CallId} {k : Call Event} {o : Opening}
    {a : OpenAction} {app : AppState} {r : Opened} (hk : hub.calls c = some k)
    (hp : k.phase = .opening o)
    (ho : openStep authToken hub.app c k.session o a = some (app, r))
    (hstep : step authToken toWs hub (.opening c a) =
      some ({ hub with app := app }.serve c (k.opened (hub.connected k.conn) r))) :
    Sound ({ hub with app := app }.serve c (k.opened (hub.connected k.conn) r)) := by
  obtain ⟨hses, htask, -⟩ := k.opened_frame (hub.connected k.conn) r
  have hunsp : (k.opened (hub.connected k.conn) r).task = .unspawned :=
    htask.trans (hS.unspawned hk fun h stage hrun ↦ by simp [hp] at hrun)
  obtain ⟨-, -, ⟨hd, rfl, rfl, rfl, happ⟩ | ⟨-, happ, hfound, hcreated⟩⟩ := openStep_cases ho
  · -- the call stores the handle it has created
    have horigin : Origin ({ hub with app := app }.serve c
        (k.opened (hub.connected k.conn) (.handle hd))) k.session hd := by
      refine ⟨_, ?_, hses, k.isOpening_opened_handle _ hd⟩
      rw [hS.creator c k hd hk hp]
      exact Function.update_self ..
    refine hS.of_move hstep rfl rfl (fun s h hs ↦ ?_) (fun ht ↦ absurd hunsp ht) (fun h hp' ↦ ?_)
      (fun h stage hp' ↦ ?_) fun h stage _ hex ↦ ?_
    · rw [Hub.app_serve, happ] at hs
      by_cases hsk : s = k.session
      · subst hsk
        rw [Function.update_self] at hs
        obtain rfl := Option.some.inj hs
        exact horigin
      · rw [Function.update_of_ne hsk] at hs
        exact (hS.table s h hs).step hstep
    · cases k.opened_eq_opening hp'
    · obtain rfl := Opened.handle.inj (k.opened_eq_running hp')
      rw [hses]
      exact horigin
    · rw [hunsp] at hex
      cases hex
  · -- a handle that the look-up has found is in the table already
    refine hS.of_move hstep rfl rfl (hS.table_of_eq hstep happ) (fun ht ↦ absurd hunsp ht)
      (fun h hp' ↦ hcreated h (k.opened_eq_opening hp')) (fun h stage hp' ↦ ?_)
      fun h stage _ hex ↦ ?_
    · rw [hses]
      exact (hS.table k.session h (hfound h (k.opened_eq_running hp'))).step hstep
    · rw [hunsp] at hex
      cases hex

/-- A step of the handler keeps `Sound`. -/
theorem Sound.of_handler (hS : Sound hub) {c : CallId} {k k' : Call Event} {hd : PiSessionHandle}
    {stage : Stage} {b : HandlerAction} {app : AppState} (hk : hub.calls c = some k)
    (hp : k.phase = .running hd stage)
    (hh : Handled toWs (hub.connected k.conn) hub.app c k hd stage b app k')
    (hstep : step authToken toWs hub a = some ({ hub with app := app }.serve c k')) :
    Sound ({ hub with app := app }.serve c k') := by
  obtain ⟨hs, -, ⟨stage', hp'⟩, happ⟩ := hh.frame
  have hhd : ∀ h st, k'.phase = .running h st → h = hd := by
    intro h st hrun
    rw [hp'] at hrun
    exact (Phase.running.inj hrun).1.symm
  refine hS.of_move hstep rfl rfl (hS.table_of_eq hstep happ) (fun _ ↦ ⟨hd, stage', hp'⟩)
    (fun h hop ↦ by simp [hp'] at hop) (fun h st hrun ↦ ?_) fun h st hrun hex ↦ ?_
  · obtain rfl := hhd h st hrun
    rw [hs]
    exact (hS.running c k h stage hk hp).step hstep
  · obtain rfl := hhd h st hrun
    refine hS.holds c k h stage hk hp ?_
    -- the spawned task starts out waiting, and every other step leaves the task alone
    cases hh with
    | spawn => cases hex
    | _ => exact hex

/-- One of those behind an update that appends `c` was there, or is `c`. -/
theorem mem_update_append {ι : Type} [DecidableEq ι] {f : ι → List CallId} {i j : ι} {c d : CallId}
    (h : d ∈ Function.update f i (f i ++ [c]) j) : d ∈ f j ∨ (d = c ∧ j = i) := by
  by_cases hj : j = i
  · subst hj
    rw [Function.update_self, List.mem_append, List.mem_singleton] at h
    exact h.imp_right fun hd ↦ ⟨hd, rfl⟩
  · rw [Function.update_of_ne hj] at h
    exact Or.inl h

section Acted

variable {ag ag' : Agents} {c d : CallId} {k k' : Call Event} {h : PiSessionHandle} {task : Task}
  {b : AgentAction Event}

/-- A task that runs holds the mutex of its handle. -/
theorem Acted.holder_eq (ha : Acted ag c k h task b ag' k') (ht : k.task = task)
    (hheld : task.executing = true → ag.holder h.creator = some c)
    (hex : k'.task.executing = true) : ag'.holder h.creator = some c := by
  cases ha with
  | acquire hfree => exact Function.update_self ..
  | emit e hs => exact hheld rfl
  | dropCallback => exact hheld rfl
  | settle r => exact hheld rfl
  | sendErr e => exact hheld rfl
  | finishOk => cases hex
  | finishError e => cases hex

/-- A mutex that changes hands is free before, or held by this very task. -/
theorem Acted.holder_of_ne (ha : Acted ag c k h task b ag' k')
    (hheld : task.executing = true → ag.holder h.creator = some c) {x : CallId}
    (hx : ag.holder x = some d) (hd : d ≠ c) : ag'.holder x = ag.holder x := by
  cases ha with
  | acquire hfree =>
    have hne : x ≠ h.creator := by
      rintro rfl
      rw [hfree] at hx
      cases hx
    exact Function.update_of_ne hne ..
  | finishOk | finishError =>
    have hne : x ≠ h.creator := by
      rintro rfl
      rw [hheld rfl] at hx
      exact hd (Option.some.inj hx).symm
    exact Function.update_of_ne hne ..
  | _ => rfl

/-- A turn that is new is one of this call, for its session and on its handle. -/
theorem Acted.mem_history (ha : Acted ag c k h task b ag' k') {s : SessionId}
    (hmem : d ∈ ag'.history s) : d ∈ ag.history s ∨ (d = c ∧ s = k.session) := by
  cases ha with
  | acquire hfree => exact mem_update_append hmem
  | _ => exact Or.inl hmem

theorem Acted.mem_conversation (ha : Acted ag c k h task b ag' k') {x : CallId}
    (hmem : d ∈ ag'.conversation x) : d ∈ ag.conversation x ∨ (d = c ∧ x = h.creator) := by
  cases ha with
  | acquire hfree => exact mem_update_append hmem
  | _ => exact Or.inl hmem

end Acted

/-- A step of the agent task keeps `Sound`. -/
theorem Sound.of_agent (hS : Sound hub) {c : CallId} {k k' : Call Event} {hd : PiSessionHandle}
    {stage : Stage} {b : AgentAction Event} {ag : Agents} (hk : hub.calls c = some k)
    (hp : k.phase = .running hd stage) (ha : Acted hub.agents c k hd k.task b ag k')
    (hstep : step authToken toWs hub a = some ({ hub with agents := ag }.put c k')) :
    Sound ({ hub with agents := ag }.put c k') := by
  obtain ⟨hs, hp'⟩ := ha.frame
  rw [hp] at hp'
  have hhd : ∀ h st, k'.phase = .running h st → h = hd := by
    intro h st hrun
    rw [hp'] at hrun
    exact (Phase.running.inj hrun).1.symm
  have hrunning : ∀ h st, k'.phase = .running h st →
      Origin ({ hub with agents := ag }.put c k') k'.session h := by
    intro h st hrun
    obtain rfl := hhd h st hrun
    rw [hs]
    exact (hS.running c k h stage hk hp).step hstep
  have hruns : Runs ({ hub with agents := ag }.put c k') c k.session hd.creator :=
    ⟨k', hd, stage, Function.update_self .., hs, hp', rfl⟩
  have hheld : k.task.executing = true → hub.agents.holder hd.creator = some c :=
    hS.holds c k hd stage hk hp
  refine hS.of_turn hstep rfl (hS.table_of_eq hstep rfl) (fun _ ↦ ⟨hd, stage, hp'⟩)
    (fun h hop ↦ by simp [hp'] at hop) hrunning ?_ ?_ ?_ ?_
  · intro h st hrun hex
    obtain rfl := hhd h st hrun
    exact ha.holder_eq rfl hheld hex
  · intro d l h st hl hdc hlp hex
    exact ha.holder_of_ne hheld (hS.holds d l h st hl hlp hex) hdc
  · intro s d hmem
    obtain hold | ⟨rfl, rfl⟩ := ha.mem_history hmem
    · exact Or.inl hold
    · exact Or.inr ⟨hd.creator, hruns⟩
  · intro x d hmem
    obtain hold | ⟨rfl, rfl⟩ := ha.mem_conversation hmem
    · exact Or.inl hold
    · exact Or.inr ⟨k.session, hruns⟩

/-- **Every step keeps `Sound`.** -/
theorem sound_step (hS : Sound hub) (h : step authToken toWs hub a = some hub') : Sound hub' := by
  cases step_cases h with
  | prompt c conn msg uuid hnew =>
    have hphase := promptCall_phase Event (hub.connected conn) conn msg uuid
    refine hS.of_start h rfl rfl rfl (promptCall_frame Event _ conn msg uuid).2.1
      (fun hd st hp ↦ ?_)
      fun hd hp ↦ ?_
    all_goals rcases hphase with hp' | hp' <;> simp [hp'] at hp
  | newChat c conn msg uuid hnew =>
    exact hS.of_start h rfl rfl rfl rfl (fun hd st hp ↦ by cases hp) fun hd hp ↦ by cases hp
  | opening c a k o app r hk hp ho => exact hS.of_opening hk hp ho h
  | handler c a k hd stage app k' hk hp hh => exact hS.of_handler hk hp hh h
  | announce c k hk hp =>
    have htask : k.task = .unspawned := hS.unspawned hk fun hd st hrun ↦ by simp [hp] at hrun
    exact hS.of_start h rfl rfl rfl htask (fun hd st hp ↦ by cases hp) fun hd hp ↦ by cases hp
  | agent c a k hd stage ag k' hk hp ha => exact hS.of_agent hk hp ha h
  | disconnect conn => exact ⟨hS.1, hS.2, hS.3, hS.4, hS.5, hS.6, hS.7⟩
  | stop body fired => exact ⟨hS.1, hS.2, hS.3, hS.4, hS.5, hS.6, hS.7⟩
  | setModel req => exact ⟨hS.1, hS.2, hS.3, hS.4, hS.5, hS.6, hS.7⟩
  | setProjectCwd s cwd => exact ⟨hS.1, hS.2, hS.3, hS.4, hS.5, hS.6, hS.7⟩
  | dropHandle s =>
    refine ⟨hS.1, hS.2, fun s' hd hs ↦ ?_, hS.4, hS.5, hS.6, hS.7⟩
    by_cases hss : s' = s
    · subst hss
      simp at hs
    · exact hS.3 s' hd (by simpa [Function.update_of_ne hss] using hs)

/-! ## The conversation is the history -/

/-- What holds as long as every step meets the condition. -/
structure Aligned (hub : Hub Event) : Prop where
  /-- The handle a prompt runs on is the one in the table. -/
  stored : ∀ c k h stage, hub.calls c = some k → k.phase = .running h stage →
    hub.app.sessionHandles k.session = some h
  /-- The pi session of the table has seen all turns of its session. -/
  conversation : ∀ s h, hub.app.sessionHandles s = some h →
    hub.agents.conversation h.creator = hub.agents.history s
  /-- The conversation a turn started from is a prefix of the history. -/
  seesAll : ∀ c k earlier, hub.calls c = some k → k.seen = some earlier →
    ∃ later, hub.agents.history k.session = earlier ++ c :: later

theorem aligned_init : Aligned (Hub.init : Hub Event) where
  stored c k h stage hk := by cases hk
  conversation s h hs := by cases hs
  seesAll c k earlier hk := by cases hk

/-- A step that moves one call, and changes neither the table nor the turns, keeps `Aligned`. -/
theorem Aligned.of_move (hA : Aligned hub) {c : CallId} {k' : Call Event}
    (hcalls : hub'.calls = Function.update hub.calls c (some k'))
    (happ : hub'.app.sessionHandles = hub.app.sessionHandles)
    (hconv : hub'.agents.conversation = hub.agents.conversation)
    (hhist : hub'.agents.history = hub.agents.history)
    (hstored : ∀ h stage, k'.phase = .running h stage →
      hub.app.sessionHandles k'.session = some h)
    (hseen : ∀ earlier, k'.seen = some earlier →
      ∃ later, hub.agents.history k'.session = earlier ++ c :: later) : Aligned hub' where
  stored d l h stage hl hp := by
    rw [happ]
    rw [hcalls] at hl
    rcases calls_update_eq_some hl with ⟨-, rfl⟩ | ⟨-, hl⟩
    · exact hstored h stage hp
    · exact hA.stored d l h stage hl hp
  conversation s h hs := by
    rw [hconv, hhist]
    exact hA.conversation s h (happ ▸ hs)
  seesAll d l earlier hl hse := by
    rw [hhist]
    rw [hcalls] at hl
    rcases calls_update_eq_some hl with ⟨rfl, rfl⟩ | ⟨-, hl⟩
    · exact hseen earlier hse
    · exact hA.seesAll d l earlier hl hse

/-- A first handle meets an empty history: no prompt of the session has run, and no prompt has run
on the handle. -/
theorem Aligned.of_store (hS : Sound hub) (hA : Aligned hub) {c : CallId} {k k' : Call Event}
    {hd : PiSessionHandle} (hk : hub.calls c = some k) (hp : k.phase = .opening (.store hd))
    (hG : StoreGuard hub (.opening c .store))
    (hcalls : hub'.calls = Function.update hub.calls c (some k'))
    (happ : hub'.app.sessionHandles =
      Function.update hub.app.sessionHandles k.session (some hd))
    (hag : hub'.agents = hub.agents) (hs : k'.session = k.session) (hseen : k'.seen = k.seen)
    (hrun : ∀ h stage, k'.phase = .running h stage → h = hd) : Aligned hub' where
  stored d l h stage hl hlp := by
    rw [happ]
    rw [hcalls] at hl
    rcases calls_update_eq_some hl with ⟨-, rfl⟩ | ⟨-, hl⟩
    · rw [hs, Function.update_self, hrun h stage hlp]
    · rw [Function.update_of_ne fun hls ↦ hG k hk d l h stage hl hls hlp]
      exact hA.stored d l h stage hl hlp
  conversation s h hsh := by
    rw [hag]
    rw [happ] at hsh
    by_cases hsk : s = k.session
    · subst hsk
      rw [Function.update_self] at hsh
      obtain rfl := Option.some.inj hsh
      have hconv : hub.agents.conversation hd.creator = [] := by
        refine List.eq_nil_iff_forall_not_mem.mpr fun d hd' ↦ ?_
        obtain ⟨s, l, h, stage, hl, -, hlp, hx⟩ := hS.conversation hd.creator d hd'
        obtain ⟨m, hm, -, hopen⟩ := hS.running d l h stage hl hlp
        rw [hx, hS.creator c k hd hk hp, hk] at hm
        obtain rfl := Option.some.inj hm
        simp [hp, Phase.isOpening] at hopen
      have hhist : hub.agents.history k.session = [] := by
        refine List.eq_nil_iff_forall_not_mem.mpr fun d hd' ↦ ?_
        obtain ⟨x, l, h, stage, hl, hls, hlp, -⟩ := hS.history k.session d hd'
        exact hG k hk d l h stage hl hls hlp
      rw [hconv, hhist]
    · rw [Function.update_of_ne hsk] at hsh
      exact hA.conversation s h hsh
  seesAll d l earlier hl hse := by
    rw [hag]
    rw [hcalls] at hl
    rcases calls_update_eq_some hl with ⟨rfl, rfl⟩ | ⟨-, hl⟩
    · rw [hs]
      exact hA.seesAll d k earlier hk (hseen ▸ hse)
    · exact hA.seesAll d l earlier hl hse

/-- A turn is put at the end of the history and of the conversation at once. -/
theorem Aligned.of_acquire (hS : Sound hub) (hA : Aligned hub) {c : CallId} {k : Call Event}
    {hd : PiSessionHandle} {stage : Stage} (hk : hub.calls c = some k)
    (hp : k.phase = .running hd stage) :
    Aligned ({ hub with agents := hub.agents.acquire c k.session hd }.put c
      { k with task := .prompting, seen := some (hub.agents.conversation hd.creator) }) where
  stored d l h st hl hlp := by
    rcases calls_update_eq_some hl with ⟨rfl, rfl⟩ | ⟨-, hl⟩
    · exact hA.stored d k h st hk hlp
    · exact hA.stored d l h st hl hlp
  conversation s h hs := by
    have htab : hub.app.sessionHandles k.session = some hd := hA.stored c k hd stage hk hp
    have hsh : hub.app.sessionHandles s = some h := hs
    by_cases hsk : s = k.session
    · subst hsk
      obtain rfl : hd = h := Option.some.inj (htab.symm.trans hsh)
      simp [Agents.acquire, hA.conversation k.session hd htab]
    · -- handles of different sessions come from different calls
      have hne : h.creator ≠ hd.creator := by
        intro he
        obtain ⟨l, hl, hls, -⟩ := hS.table s h hsh
        obtain ⟨m, hm, hms, -⟩ := hS.table k.session hd htab
        rw [he, hm] at hl
        obtain rfl := Option.some.inj hl
        exact hsk (hls.symm.trans hms)
      simp [Agents.acquire, Function.update_of_ne hne, Function.update_of_ne hsk,
        hA.conversation s h hsh]
  seesAll d l earlier hl hse := by
    rcases calls_update_eq_some hl with ⟨rfl, rfl⟩ | ⟨-, hl⟩
    · obtain rfl : hub.agents.conversation hd.creator = earlier := Option.some.inj hse
      exact ⟨[], by simp [Agents.acquire, hA.conversation _ hd (hA.stored d k hd stage hk hp)]⟩
    · obtain ⟨later, hlater⟩ := hA.seesAll d l earlier hl hse
      by_cases hls : l.session = k.session
      · rw [hls] at hlater
        exact ⟨later ++ [c], by simp [Agents.acquire, hls, hlater]⟩
      · exact ⟨later, by simp [Agents.acquire, Function.update_of_ne hls, hlater]⟩

/-- **Every step that meets the condition keeps `Aligned`**, but for the one of `set_project`. -/
theorem aligned_step (hS : Sound hub) (hA : Aligned hub) (hG : StoreGuard hub a)
    (hset : ∀ s, a ≠ .dropHandle s) (h : step authToken toWs hub a = some hub') :
    Aligned hub' := by
  cases step_cases h with
  | prompt c conn msg uuid hnew =>
    obtain ⟨-, -, hseen⟩ := promptCall_frame Event (hub.connected conn) conn msg uuid
    refine hA.of_move rfl rfl rfl rfl (fun hd st hp ↦ ?_) fun earlier he ↦ by simp [hseen] at he
    rcases promptCall_phase Event (hub.connected conn) conn msg uuid with hp' | hp'
    all_goals simp [hp'] at hp
  | newChat c conn msg uuid hnew =>
    exact hA.of_move rfl rfl rfl rfl (fun hd st hp ↦ by cases hp) fun earlier he ↦ by cases he
  | opening c a k o app r hk hp ho =>
    obtain ⟨hs, -, hseen⟩ := k.opened_frame (hub.connected k.conn) r
    obtain ⟨-, -, ⟨hd, rfl, rfl, rfl, happ⟩ | ⟨-, happ, hfound, -⟩⟩ := openStep_cases ho
    · refine hA.of_store hS hk hp hG rfl happ rfl hs hseen fun h' st hrun ↦ ?_
      exact (Opened.handle.inj (k.opened_eq_running hrun)).symm
    · refine hA.of_move rfl happ rfl rfl (fun h' st hrun ↦ ?_) fun earlier he ↦ ?_
      · rw [hs]
        exact hfound h' (k.opened_eq_running hrun)
      · rw [hs]
        exact hA.seesAll c k earlier hk (hseen ▸ he)
  | handler c a k hd stage app k' hk hp hh =>
    obtain ⟨hs, hseen, ⟨stage', hp'⟩, happ⟩ := hh.frame
    refine hA.of_move rfl happ rfl rfl (fun h' st hrun ↦ ?_) fun earlier he ↦ ?_
    · rw [hp'] at hrun
      obtain ⟨rfl, -⟩ := Phase.running.inj hrun
      rw [hs]
      exact hA.stored c k hd stage hk hp
    · rw [hs]
      exact hA.seesAll c k earlier hk (hseen ▸ he)
  | announce c k hk hp =>
    exact hA.of_move rfl rfl rfl rfl (fun hd st hp ↦ by cases hp) fun earlier he ↦
      hA.seesAll c k earlier hk he
  | agent c a k hd stage ag k' hk hp ha =>
    generalize ht : k.task = t at ha
    cases ha with
    | acquire hfree => exact hA.of_acquire hS hk hp
    | _ =>
      exact hA.of_move rfl rfl rfl rfl (fun h' st hrun ↦ hA.stored c k h' st hk hrun)
        fun earlier he ↦ hA.seesAll c k earlier hk he
  | disconnect conn => exact ⟨hA.1, hA.2, hA.3⟩
  | stop body fired => exact ⟨hA.1, hA.2, hA.3⟩
  | setModel req => exact ⟨hA.1, hA.2, hA.3⟩
  | setProjectCwd s cwd => exact ⟨hA.1, hA.2, hA.3⟩
  | dropHandle s => exact absurd rfl (hset s)

end Step

/-! ## The law over a run -/

/-- The invariants give the law: two tasks that run would hold one mutex. -/
theorem oneHandle_of_aligned {hub : Hub Event} (hS : Sound hub) (hA : Aligned hub) :
    OneHandle hub where
  stored := hA.stored
  seesAll := hA.seesAll
  exclusive c d k l hk hl hs hkex hlex := by
    obtain ⟨h, st, hp⟩ := hS.spawned c k hk fun ht ↦ by simp [ht, Task.executing] at hkex
    obtain ⟨h', st', hp'⟩ := hS.spawned d l hl fun ht ↦ by simp [ht, Task.executing] at hlex
    have hsame : h = h' := by
      have hc := hA.stored c k h st hk hp
      rw [hs, hA.stored d l h' st' hl hp'] at hc
      exact (Option.some.inj hc).symm
    have hc := hS.holds c k h st hk hp hkex
    rw [hsame, hS.holds d l h' st' hl hp' hlex] at hc
    exact (Option.some.inj hc).symm

/-- A store that does not meet the condition puts a second handle into the table, while a prompt
of the session runs on the first one. -/
theorem storeGuard_of_oneHandle {hub hub' : Hub Event} {a : Action Event} (hS : Sound hub)
    (h : step authToken toWs hub a = some hub') (hO : OneHandle hub') : StoreGuard hub a := by
  cases step_cases h with
  | opening c b k o app r hk hp ho =>
    obtain ⟨-, -, ⟨hd, rfl, rfl, rfl, happ⟩ | ⟨hb, -⟩⟩ := openStep_cases ho
    · intro k' hk' d l h' st hl hls hlp
      obtain rfl : k = k' := Option.some.inj (hk.symm.trans hk')
      have hdc : d ≠ c := by
        rintro rfl
        obtain rfl : k = l := Option.some.inj (hk.symm.trans hl)
        simp [hp] at hlp
      have hstored := hO.stored d l h' st ((Function.update_of_ne hdc _ _).trans hl) hlp
      rw [Hub.app_serve, happ, hls, Function.update_self] at hstored
      obtain rfl := Option.some.inj hstored
      -- the first handle was stored by another call, and this one is about to store its own
      obtain ⟨m, hm, -, hopen⟩ := hS.running d l hd st hl hlp
      rw [hS.creator c k hd hk hp, hk] at hm
      obtain rfl := Option.some.inj hm
      simp [hp, Phase.isOpening] at hopen
    · cases b with
      | store => exact absurd rfl hb
      | _ => trivial
  | _ => trivial

/-- **One pi session for each session id, over a run.**  In a run without `set_project` the law
holds in every state that is reached if and only if every step meets `StoreGuard`. -/
theorem oneHandle_iff_guarded (as : List (Action Event)) (final : Hub Event)
    (hrun : Machine.exec (step authToken toWs) .init as = some final)
    (hset : ∀ s, .dropHandle s ∉ as) :
    (∀ pre post hub, as = pre ++ post → Machine.exec (step authToken toWs) .init pre = some hub →
      OneHandle hub) ↔ Machine.Guarded (step authToken toWs) StoreGuard .init as := by
  have hH : ∀ a ∈ as, ∀ s, a ≠ .dropHandle s := fun a ha s hs ↦ hset s (hs ▸ ha)
  refine Machine.forall_iff_guarded_of_inv (I := fun hub ↦ Sound hub ∧ Aligned hub)
    (H := fun a ↦ ∀ s, a ≠ .dropHandle s) ?_ ?_ ?_ ⟨sound_init, aligned_init⟩ hH hrun
  · exact fun _ _ _ hs ha hg hstep ↦
      ⟨sound_step hs.1 hstep, aligned_step hs.1 hs.2 hg ha hstep⟩
  · exact fun _ hs ↦ oneHandle_of_aligned hs.1 hs.2
  · exact fun _ _ _ hs hstep hone ↦ storeGuard_of_oneHandle hs.1 hstep hone

/-- Two prompts of one session, the second of which comes after the first has stored its handle. -/
def exampleTurns : List (Action Unit) :=
  firstPrompt 0 0 exampleMessage exampleUuid ++ nextPrompt 1 1 exampleMessage exampleUuid

theorem oneHandle_iff_guarded_example :
    ∃ final, Machine.exec (step (fun _ ↦ none) fun (_ : Unit) _ ↦ none) .init exampleTurns =
        some final ∧
      ((∀ pre post hub, exampleTurns = pre ++ post →
        Machine.exec (step (fun _ ↦ none) fun (_ : Unit) _ ↦ none) .init pre = some hub →
          OneHandle hub) ↔
        Machine.Guarded (step (fun _ ↦ none) fun (_ : Unit) _ ↦ none) StoreGuard .init
          exampleTurns) := by
  obtain ⟨final, hrun⟩ : ∃ final, Machine.exec (step (fun _ ↦ none) fun (_ : Unit) _ ↦ none) .init
      exampleTurns = some final := ⟨_, rfl⟩
  refine ⟨final, hrun, oneHandle_iff_guarded exampleTurns final hrun fun s ↦ ?_⟩
  simp [exampleTurns, firstPrompt, nextPrompt]

/-- **The law fails without the condition.**  Two first prompts of one session look it up before
either has stored a handle: each runs on a pi session of its own. -/
theorem not_oneHandle_of_exec :
    ¬ ∀ (as : List (Action Unit)) (hub : Hub Unit), (∀ s, .dropHandle s ∉ as) →
      Machine.exec (step (fun _ ↦ none) fun _ _ ↦ none) .init as = some hub → OneHandle hub := by
  intro h
  obtain ⟨hub, hrun, k, hd, hk, hp, hne⟩ : ∃ hub,
      Machine.exec (step (fun _ ↦ none) fun (_ : Unit) _ ↦ none) .init
        ([.prompt 0 0 exampleMessage exampleUuid, .opening 0 .lookup] ++
          firstPrompt 1 1 exampleMessage exampleUuid ++
          [.opening 0 .readCwd, .opening 0 .readModel, .opening 0 .created, .opening 0 .store]) =
        some hub ∧ ∃ k hd, hub.calls 1 = some k ∧ k.phase = .running hd .forward ∧
          hub.app.sessionHandles k.session ≠ some hd :=
    ⟨_, rfl, _, _, rfl, rfl, by decide⟩
  have hset : ∀ s, .dropHandle s ∉ ([.prompt 0 0 exampleMessage exampleUuid, .opening 0 .lookup] ++
      firstPrompt 1 1 exampleMessage exampleUuid ++ [.opening 0 .readCwd, .opening 0 .readModel,
        .opening 0 .created, .opening 0 .store] : List (Action Unit)) := by
    simp [firstPrompt]
  exact hne ((h _ hub hset hrun).stored 1 k hd .forward hk hp)

end WorkWithMe.Server
