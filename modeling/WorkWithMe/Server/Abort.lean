import WorkWithMe.Server.Hub

/-!
# The table of abort handles

`AppState::abort_handles` has one entry for each session, not for each run.  `handle_prompt` writes
the entry of its session in front of the run and removes it after the end of its event loop, and
`POST /api/stop` fires what it finds.

* `Owned` holds in every state: an entry belongs to a call that has inserted it and has not come
  to its removal yet.  So nothing is left behind.
* `abortInvariant_of_guarded` is the whole law, for the runs in which no call writes or removes the
  entry of a session while a run of that session that needs it is pending (`AbortGuard`).
* `not_abortInvariant_of_exec` is a run of two connections in which it fails.
-/

set_option autoImplicit false

namespace WorkWithMe.Server

variable {Event : Type} {authToken : String → Option String}
  {toWs : Event → SessionId → Option Json}

/-! ## The law -/

/-- Between the insertion of the abort handle and its removal. -/
def Stage.ownsEntry : Stage → Bool
  | .spawn | .forward | .report | .complete | .cleanup => true
  | _ => false

/-- The call has inserted its abort handle and has not come to the removal. -/
def Call.ownsEntry (k : Call Event) : Bool :=
  match k.phase with
  | .running _ stage => stage.ownsEntry
  | _ => false

/-- The call has inserted its abort handle, and its agent task is still to be spawned or has not
finished. -/
def Call.pending (k : Call Event) : Bool :=
  k.task.unfinished || match k.phase with
    | .running _ .spawn => true
    | _ => false

/-- **The law of the abort handles.** -/
structure AbortInvariant (hub : Hub Event) : Prop where
  /-- While a run of a session is executing, the session is mapped to the abort handle of that run,
  and a request to stop the session fires it. -/
  executing : ∀ c k, hub.calls c = some k → k.task.executing = true →
    hub.app.abortHandles k.session = some c ∧
      stopAgent (stopRequest k.session) hub.app =
        (⟨200, .obj [("success", .bool true), ("aborted", .bool true)]⟩, some c)
  /-- While an agent task of a session is spawned and not finished, the session has an entry. -/
  spawned : ∀ c k, hub.calls c = some k → k.task.unfinished = true →
    (hub.app.abortHandles k.session).isSome = true
  /-- When all calls for a session have returned and all its tasks have finished, it has none. -/
  done : ∀ s, (∀ c k, hub.calls c = some k → k.session = s →
    k.hasReturned = true ∧ k.task.unfinished = false) → hub.app.abortHandles s = none

/-- The condition on a step: a call inserts its abort handle when no other run of the session is
pending, and removes the entry when no run of the session is, its own included. -/
def AbortGuard (hub : Hub Event) : Action Event → Prop
  | .handler c .insertAbort => ∀ k, hub.calls c = some k → ∀ d l, hub.calls d = some l →
      l.session = k.session → d ≠ c → l.pending = false
  | .handler c .cleanup => ∀ k, hub.calls c = some k → ∀ d l, hub.calls d = some l →
      l.session = k.session → l.pending = false
  | _ => True

/-! ## What a step does to the owner of an entry -/

section Steps

variable {k k' : Call Event} {online : Bool} {app app' : AppState} {ag ag' : Agents} {c : CallId}
  {h : PiSessionHandle} {stage : Stage}

theorem Call.pending_of_unfinished (h : k.task.unfinished = true) : k.pending = true := by
  rw [Call.pending, h, Bool.true_or]

theorem Task.unfinished_of_executing {t : Task} (h : t.executing = true) :
    t.unfinished = true := by
  cases t <;> simp_all [Task.executing, Task.unfinished]

/-- On the way to its handle a call owns nothing, and no run of it becomes pending. -/
theorem Call.pending_of_opened (r : Opened) (h : (k.opened online r).pending = true) :
    k.pending = true := by
  have htask := (k.opened_frame online r).2.1
  refine k.pending_of_unfinished ?_
  rw [← htask]
  rcases k.opened_phase online r with ⟨o, -, hp⟩ | ⟨hd, -, hp⟩ | hp | hp
  all_goals simpa [Call.pending, hp] using h

/-- The agent task leaves the entry to the handler. -/
theorem Acted.ownsEntry_eq {a : AgentAction Event}
    (ha : Acted ag c k h k.task a ag' k') : k'.ownsEntry = k.ownsEntry := by
  rw [Call.ownsEntry, ha.frame.2, Call.ownsEntry]

/-- An agent task that has finished stays finished. -/
theorem Acted.pending_of {a : AgentAction Event} (ha : Acted ag c k h k.task a ag' k')
    (hp : k'.pending = true) : k.pending = true := by
  rw [Call.pending, ha.frame.2] at hp
  rw [Call.pending]
  generalize ht : k.task = t at ha
  cases ha <;> simp_all [Task.unfinished]

/-- A step of the handler that is neither the insertion nor the removal leaves the table and the
owner of the entry alone. -/
theorem Handled.quiet {a : HandlerAction} (hh : Handled toWs online app c k h stage a app' k')
    (hp : k.phase = .running h stage) (hi : a ≠ .insertAbort) (hc : a ≠ .cleanup) :
    app'.abortHandles = app.abortHandles ∧ k'.ownsEntry = k.ownsEntry ∧
      (k'.pending = true → k.pending = true) := by
  cases hh with
  | insertAbort => exact absurd rfl hi
  | cleanup => exact absurd rfl hc
  | spawn => exact ⟨rfl, by simp [Call.ownsEntry, hp, Call.goto, Stage.ownsEntry],
      fun _ ↦ by simp [Call.pending, hp]⟩
  | _ =>
    refine ⟨rfl, by simp [Call.ownsEntry, hp, Call.goto, Stage.ownsEntry], fun h' ↦ ?_⟩
    simpa [Call.pending, hp, Call.goto, Call.send] using h'

end Steps

/-! ## Nothing is left behind -/

/-- Every entry belongs to a call that has inserted it and has not come to its removal, and every
call has a session. -/
structure Owned (hub : Hub Event) : Prop where
  /-- The owner of an entry. -/
  owner : ∀ s c, hub.app.abortHandles s = some c →
    ∃ k, hub.calls c = some k ∧ k.session = s ∧ k.ownsEntry = true
  /-- Sessions have names. -/
  named : ∀ c k, hub.calls c = some k → k.session ≠ ""

theorem owned_init : Owned (Hub.init : Hub Event) where
  owner s c h := by cases h
  named c k h := by cases h

section Owned

variable {hub hub' : Hub Event} {c : CallId} {k k' : Call Event}

/-- A step that changes one call, and neither the table nor what the call owns, keeps `Owned`. -/
theorem Owned.of_quiet (hO : Owned hub) (hk : hub.calls c = some k)
    (hcalls : hub'.calls = Function.update hub.calls c (some k'))
    (happ : hub'.app.abortHandles = hub.app.abortHandles) (hs : k'.session = k.session)
    (ho : k.ownsEntry = true → k'.ownsEntry = true) : Owned hub' where
  owner s d hd := by
    rw [happ] at hd
    obtain ⟨l, hl, hls, hlo⟩ := hO.owner s d hd
    rw [hcalls]
    by_cases hdc : d = c
    · subst hdc
      obtain rfl : k = l := Option.some.inj (hk.symm.trans hl)
      exact ⟨k', Function.update_self .., hs.trans hls, ho hlo⟩
    · exact ⟨l, by rw [Function.update_of_ne hdc, hl], hls, hlo⟩
  named d l hl := by
    rw [hcalls] at hl
    rcases calls_update_eq_some hl with ⟨-, rfl⟩ | ⟨-, hl⟩
    · exact hs ▸ hO.named c k hk
    · exact hO.named d l hl

/-- A call that writes the entry of its own session keeps `Owned`, if what it writes is its own. -/
theorem Owned.of_write {v : Option CallId} (hO : Owned hub) (hk : hub.calls c = some k)
    (hcalls : hub'.calls = Function.update hub.calls c (some k'))
    (happ : hub'.app.abortHandles = Function.update hub.app.abortHandles k.session v)
    (hs : k'.session = k.session) (hv : ∀ d, v = some d → d = c ∧ k'.ownsEntry = true) :
    Owned hub' where
  owner s d hd := by
    rw [happ] at hd
    rw [hcalls]
    by_cases hsk : s = k.session
    · subst hsk
      rw [Function.update_self] at hd
      obtain ⟨rfl, hown⟩ := hv d hd
      exact ⟨k', Function.update_self .., hs, hown⟩
    · rw [Function.update_of_ne hsk] at hd
      obtain ⟨l, hl, hls, hlo⟩ := hO.owner s d hd
      have hdc : d ≠ c := by
        rintro rfl
        obtain rfl : k = l := Option.some.inj (hk.symm.trans hl)
        exact hsk hls.symm
      exact ⟨l, by rw [Function.update_of_ne hdc, hl], hls, hlo⟩
  named d l hl := by
    rw [hcalls] at hl
    rcases calls_update_eq_some hl with ⟨-, rfl⟩ | ⟨-, hl⟩
    · exact hs ▸ hO.named c k hk
    · exact hO.named d l hl

/-- The start of a call keeps `Owned`. -/
theorem Owned.of_start (hO : Owned hub) (hnew : hub.calls c = none)
    (hcalls : hub'.calls = Function.update hub.calls c (some k'))
    (happ : hub'.app.abortHandles = hub.app.abortHandles) (hs : k'.session ≠ "") :
    Owned hub' where
  owner s d hd := by
    rw [happ] at hd
    obtain ⟨l, hl, hlo⟩ := hO.owner s d hd
    have hdc : d ≠ c := by
      rintro rfl
      rw [hnew] at hl
      cases hl
    exact ⟨l, by rw [hcalls, Function.update_of_ne hdc, hl], hlo⟩
  named d l hl := by
    rw [hcalls] at hl
    rcases calls_update_eq_some hl with ⟨-, rfl⟩ | ⟨-, hl⟩
    · exact hs
    · exact hO.named d l hl

theorem Owned.of_eq (hO : Owned hub) (hcalls : hub'.calls = hub.calls)
    (happ : hub'.app.abortHandles = hub.app.abortHandles) : Owned hub' where
  owner s d hd := by
    rw [happ] at hd
    rw [hcalls]
    exact hO.owner s d hd
  named d l hl := hO.named d l (hcalls ▸ hl)

/-- **Every step keeps `Owned`.** -/
theorem owned_step {a : Action Event} (hO : Owned hub)
    (h : step authToken toWs hub a = some hub') : Owned hub' := by
  cases step_cases h with
  | prompt c conn msg uuid hnew =>
    refine hO.of_start hnew rfl rfl ?_
    rw [(promptCall_frame Event _ conn msg uuid).1]
    exact promptSession_ne_empty msg uuid
  | newChat c conn msg uuid hnew => exact hO.of_start hnew rfl rfl uuid.text_ne_empty
  | opening c a k o app r hk hp ho =>
    refine hO.of_quiet hk rfl (openStep_cases ho).1 (k.opened_frame _ r).1 fun hown ↦ ?_
    simp [Call.ownsEntry, hp] at hown
  | handler c a k hd stage app k' hk hp hh =>
    by_cases hi : a = .insertAbort
    · subst hi
      cases hh with
      | insertAbort => exact hO.of_write hk rfl rfl rfl fun d hd ↦ ⟨(Option.some.inj hd).symm, rfl⟩
    · by_cases hc : a = .cleanup
      · subst hc
        cases hh with
        | cleanup => exact hO.of_write hk rfl rfl rfl fun d hd ↦ by cases hd
      · obtain ⟨happ, hown, -⟩ := hh.quiet hp hi hc
        exact hO.of_quiet hk rfl happ hh.frame.1 fun h ↦ hown ▸ h
  | announce c k hk hp =>
    refine hO.of_quiet hk rfl rfl rfl fun hown ↦ ?_
    simp [Call.ownsEntry, hp] at hown
  | agent c a k hd stage ag k' hk hp ha =>
    exact hO.of_quiet hk rfl rfl ha.frame.1 fun h ↦ ha.ownsEntry_eq ▸ h
  | disconnect conn => exact hO.of_eq rfl rfl
  | stop body fired => exact hO.of_eq rfl rfl
  | setModel req => exact hO.of_eq rfl rfl
  | setProjectCwd s cwd => exact hO.of_eq rfl rfl
  | dropHandle s => exact hO.of_eq rfl rfl

/-- The owner of an entry has not come to its removal, so it has not returned. -/
theorem Owned.eq_none_of_returned {s : SessionId} (hO : Owned hub)
    (hs : ∀ c k, hub.calls c = some k → k.session = s → k.hasReturned = true) :
    hub.app.abortHandles s = none := by
  rw [Option.eq_none_iff_forall_ne_some]
  intro c hc
  obtain ⟨k, hk, hks, hown⟩ := hO.owner s c hc
  have hret := hs c k hk hks
  rw [Call.hasReturned] at hret
  rw [Call.ownsEntry] at hown
  split at hret
  · rename_i hp
    rw [hp] at hown
    cases hown
  · rename_i hd hp
    rw [hp] at hown
    cases hown
  · cases hret

end Owned

/-! ## The pending run has the entry -/

/-- A pending run has the entry of its session. -/
def PendingEntry (hub : Hub Event) : Prop :=
  ∀ c k, hub.calls c = some k → k.pending = true → hub.app.abortHandles k.session = some c

section Pending

variable {hub hub' : Hub Event} {c : CallId} {k k' : Call Event}

/-- A step that changes one call, and not the table, keeps `PendingEntry` if no run of the call
becomes pending. -/
theorem PendingEntry.of_quiet (hP : PendingEntry hub) (hk : hub.calls c = some k)
    (hcalls : hub'.calls = Function.update hub.calls c (some k'))
    (happ : hub'.app.abortHandles = hub.app.abortHandles) (hs : k'.session = k.session)
    (hp : k'.pending = true → k.pending = true) : PendingEntry hub' := by
  intro d l hl hlp
  rw [happ]
  rw [hcalls] at hl
  rcases calls_update_eq_some hl with ⟨rfl, rfl⟩ | ⟨-, hl⟩
  · rw [hs]
    exact hP d k hk (hp hlp)
  · exact hP d l hl hlp

/-- The start of a call keeps `PendingEntry`. -/
theorem PendingEntry.of_start (hP : PendingEntry hub)
    (hcalls : hub'.calls = Function.update hub.calls c (some k'))
    (happ : hub'.app.abortHandles = hub.app.abortHandles) (hp : k'.pending = false) :
    PendingEntry hub' := by
  intro d l hl hlp
  rw [happ]
  rw [hcalls] at hl
  rcases calls_update_eq_some hl with ⟨-, rfl⟩ | ⟨-, hl⟩
  · rw [hp] at hlp
    cases hlp
  · exact hP d l hl hlp

/-- A write of the entry of a session keeps `PendingEntry` if no run of the session is pending
after it but one whose entry it is. -/
theorem PendingEntry.of_write {v : Option CallId} {s : SessionId} (hP : PendingEntry hub)
    (hcalls : hub'.calls = Function.update hub.calls c (some k'))
    (happ : hub'.app.abortHandles = Function.update hub.app.abortHandles s v)
    (hs : k'.session = s) (hv : k'.pending = true → v = some c)
    (hothers : ∀ d l, hub.calls d = some l → l.session = s → d ≠ c → l.pending = false) :
    PendingEntry hub' := by
  intro d l hl hlp
  rw [happ]
  rw [hcalls] at hl
  rcases calls_update_eq_some hl with ⟨rfl, rfl⟩ | ⟨hdc, hl⟩
  · rw [hs, Function.update_self]
    exact hv hlp
  · have hls : l.session ≠ s := by
      intro hls
      rw [hothers d l hl hls hdc] at hlp
      cases hlp
    rw [Function.update_of_ne hls]
    exact hP d l hl hlp

/-- **Every step that meets the condition keeps `PendingEntry`.** -/
theorem pendingEntry_step {a : Action Event} (hP : PendingEntry hub) (hG : AbortGuard hub a)
    (h : step authToken toWs hub a = some hub') : PendingEntry hub' := by
  cases step_cases h with
  | prompt c conn msg uuid hnew =>
    refine hP.of_start rfl rfl ?_
    rw [Call.pending, (promptCall_frame Event _ conn msg uuid).2.1]
    rcases promptCall_phase Event (hub.connected conn) conn msg uuid with hp | hp
    all_goals rw [hp]; rfl
  | newChat c conn msg uuid hnew => exact hP.of_start rfl rfl rfl
  | opening c a k o app r hk hp ho =>
    exact hP.of_quiet hk rfl (openStep_cases ho).1 (k.opened_frame _ r).1 (k.pending_of_opened r)
  | handler c a k hd stage app k' hk hp hh =>
    by_cases hi : a = .insertAbort
    · subst hi
      cases hh with
      | insertAbort => exact hP.of_write rfl rfl rfl (fun _ ↦ rfl) (hG k hk)
    · by_cases hc : a = .cleanup
      · subst hc
        cases hh with
        | cleanup =>
          refine hP.of_write rfl rfl rfl (fun hpend ↦ ?_) fun d l hl hls _ ↦ hG k hk d l hl hls
          -- the removal leaves the agent task alone, which the condition says has finished
          have hunf : k.task.unfinished = true := by
            simpa [Call.pending, Call.goto] using hpend
          have hfin : k.pending = false := hG k hk c k hk rfl
          rw [k.pending_of_unfinished hunf] at hfin
          cases hfin
      · obtain ⟨happ, -, hpend⟩ := hh.quiet hp hi hc
        exact hP.of_quiet hk rfl happ hh.frame.1 hpend
  | announce c k hk hp =>
    refine hP.of_quiet hk rfl rfl rfl fun hpend ↦ ?_
    simpa [Call.pending, hp, Call.announce, Call.send] using hpend
  | agent c a k hd stage ag k' hk hp ha =>
    exact hP.of_quiet hk rfl rfl ha.frame.1 ha.pending_of
  | disconnect conn => exact hP
  | stop body fired => exact hP
  | setModel req => exact hP
  | setProjectCwd s cwd => exact hP
  | dropHandle s => exact hP

end Pending

/-! ## The law over a run -/

/-- The two invariants are the law. -/
theorem abortInvariant_of_owned {hub : Hub Event} (hO : Owned hub) (hP : PendingEntry hub) :
    AbortInvariant hub where
  executing c k hk hex := by
    have hentry := hP c k hk (k.pending_of_unfinished (Task.unfinished_of_executing hex))
    exact ⟨hentry, stopAgent_of_abortHandles (hO.named c k hk) hentry⟩
  spawned c k hk hunf := by
    rw [hP c k hk (k.pending_of_unfinished hunf)]
    rfl
  done s hs := hO.eq_none_of_returned fun c k hk hks ↦ (hs c k hk hks).1

/-- **The abort handles over a run.**  In every state that a run reaches all of whose steps meet
`AbortGuard`, the law holds. -/
theorem abortInvariant_of_guarded (as : List (Action Event)) (hub : Hub Event)
    (hrun : Machine.exec (step authToken toWs) .init as = some hub)
    (hG : Machine.Guarded (step authToken toWs) AbortGuard .init as) : AbortInvariant hub := by
  have hO : Owned hub :=
    Machine.inv_of_exec (fun _ _ _ hs hstep ↦ owned_step hs hstep) owned_init hrun
  have hP : PendingEntry hub :=
    Machine.inv_of_guarded (fun _ _ _ hs hg hstep ↦ pendingEntry_step hs hg hstep)
      (fun c k hk ↦ by cases hk) hG hrun
  exact abortInvariant_of_owned hO hP

/-- A prompt up to the start of its run. -/
def examplePrompt : List (Action Unit) :=
  firstPrompt 0 0 exampleMessage exampleUuid ++ [.agent 0 .acquire]

/-- A prompt that nothing comes between meets the condition. -/
theorem abortInvariant_of_guarded_example :
    ∃ hub, Machine.exec (step (fun _ ↦ none) fun (_ : Unit) _ ↦ none) .init examplePrompt
        = some hub ∧
      (∃ k, hub.calls 0 = some k ∧ k.task.executing = true) ∧ AbortInvariant hub := by
  obtain ⟨hub, hrun, hk⟩ : ∃ hub, Machine.exec (step (fun _ ↦ none) fun (_ : Unit) _ ↦ none) .init
      examplePrompt = some hub ∧ ∃ k, hub.calls 0 = some k ∧ k.task.executing = true :=
    ⟨_, rfl, _, rfl, rfl⟩
  refine ⟨hub, hrun, hk, abortInvariant_of_guarded examplePrompt hub hrun ?_⟩
  have hsplit : examplePrompt = examplePrompt.take 6 ++ .handler 0 .insertAbort ::
      [.handler 0 .spawn, .agent 0 .acquire] := rfl
  rw [hsplit, Machine.guarded_append]
  refine ⟨Machine.guarded_of_forall_mem ?_ _, fun t ht ↦ ⟨?_, fun _ _ ↦ ?_⟩⟩
  · simp [examplePrompt, firstPrompt, AbortGuard]
  · intro k _ d l hl _ hd
    -- no other call has been started
    have hnone := calls_eq_none_of_exec (d := d) ht
      (by simpa [examplePrompt, firstPrompt, Action.starts] using Ne.symm hd)
    rw [hnone] at hl
    cases hl
  · exact Machine.guarded_of_forall_mem (by simp [AbortGuard]) _

/-- **The law fails without the condition.**  While the first of two prompts for one session is
executing, the second one inserts its abort handle: `POST /api/stop` cannot reach the first one any
more. -/
theorem not_abortInvariant_of_exec :
    ¬ ∀ (as : List (Action Unit)) (hub : Hub Unit),
      Machine.exec (step (fun _ ↦ none) fun _ _ ↦ none) .init as = some hub →
        AbortInvariant hub := by
  intro h
  obtain ⟨hub, hrun, k, hk, ht, htab⟩ : ∃ hub,
      Machine.exec (step (fun _ ↦ none) fun (_ : Unit) _ ↦ none) .init
        (examplePrompt ++ nextPrompt 1 1 exampleMessage exampleUuid) = some hub ∧
      ∃ k, hub.calls 0 = some k ∧ k.task = .prompting ∧
        hub.app.abortHandles k.session = some 1 :=
    ⟨_, rfl, _, rfl, rfl, rfl⟩
  have hentry := ((h _ hub hrun).executing 0 k hk (by rw [ht]; rfl)).1
  rw [htab] at hentry
  cases hentry

/-- **Nothing is left behind.**  Without any condition, when all calls for a session have returned
the session has no entry. -/
theorem abortHandles_eq_none_of_exec (as : List (Action Event)) (hub : Hub Event)
    (hrun : Machine.exec (step authToken toWs) .init as = some hub) (s : SessionId)
    (hs : ∀ c k, hub.calls c = some k → k.session = s → k.hasReturned = true) :
    hub.app.abortHandles s = none :=
  Owned.eq_none_of_returned
    (Machine.inv_of_exec (fun _ _ _ hs hstep ↦ owned_step hs hstep) owned_init hrun) hs

end WorkWithMe.Server
