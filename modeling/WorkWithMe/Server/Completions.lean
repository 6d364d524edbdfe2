import WorkWithMe.Server.Login

/-!
# Logins that are completed at the same time

`complete_login` loads the auth file, exchanges a code over the network, sets the credential in what
it has loaded, and saves that as a whole.  Any number of requests do so at the same time, and
nothing stands between their accesses to the file.

* `Place` is how far a request has come, and `step` what one of them does next.
* `exec_alone` says that a request that nothing comes between does what `completeLogin` does.
* `LoginsKept` says that no login is lost, and **`loginsKept_of_guarded`** that none is where every
  save comes while the other providers are in the file as they have been loaded, and every request
  ends with its credential still there.
* `not_loginsKept_of_exec` is a run of two logins that both succeed, after which one is lost.
-/

set_option autoImplicit false

namespace WorkWithMe.Server.Completions

open Login

universe u

/-! ## The requests -/

/-- A request to complete a login, with what it is answered by its environment. -/
structure Completion (Cred : Type u) where
  env : Env Cred
  pendingId : String
  codeInput : Option String

/-- How far a request has come. -/
inductive Place (Cred : Type u) where
  /-- It is about to look up the pending login. -/
  | arrived
  /-- It is about to load the auth file. -/
  | found (pending : Pending)
  /-- It is about to exchange the code. -/
  | loaded (pending : Pending) (auth : String → Option Cred)
  /-- It has set the credential in what it has loaded, and is about to save that. -/
  | exchanged (pending : Pending) (auth : String → Option Cred) (credential : Cred)
  /-- It is about to remove the pending login. -/
  | saved (pending : Pending) (credential : Cred)
  /-- It has ended with success. -/
  | succeeded (pending : Pending) (credential : Cred)
  /-- It has ended with an error. -/
  | refused (answer : Answer)

/-- The auth file as it is, the requests, and the logins that are completed, the last first. -/
structure State (Cred : Type u) where
  stores : Stores Cred
  requests : ℕ → Option (Completion Cred × Place Cred)
  completed : List (String × Cred)

/-- A label of the interleaving. -/
inductive Move (Cred : Type u) where
  /-- A request arrives. -/
  | arrive (i : ℕ) (req : Completion Cred)
  /-- A request goes on. -/
  | advance (i : ℕ)

namespace Place

variable {Cred : Type u}

/-- What a request has been answered. -/
def answer : Place Cred → Option Answer
  | succeeded pending _ =>
    some ⟨200, .obj [("success", .bool true), ("provider", .str pending.provider)]⟩
  | refused answer => some answer
  | _ => none

/-- The login that a request has completed. -/
def completed : Place Cred → Option (String × Cred)
  | succeeded pending credential => some (pending.provider, credential)
  | _ => none

/-- What a request is about to save, or to set its credential in. -/
def copy : Place Cred → Option (String → Option Cred)
  | loaded _ auth => some auth
  | exchanged _ auth _ => some auth
  | _ => none

/-- The next thing a request does. -/
def next (req : Completion Cred) (s : Stores Cred) : Place Cred → Option (Stores Cred × Place Cred)
  | arrived =>
    match s.pending req.pendingId with
    | none => some (s, refused (failed 404 "Login session not found or expired."))
    | some pending => some (s, found pending)
  | found pending =>
    match req.env.load with
    | some err => some (s, refused (failed 500 err))
    | none => some (s, loaded pending s.auth)
  | loaded pending auth =>
    match credentialResult req.env pending req.codeInput with
    | .error answer => some (s, refused answer)
    | .ok (.error err) =>
      let status :=
        if "pending".toList <:+: err.toList ∨ "slow down".toList <:+: err.toList then 409
        else 400
      some (s, refused (failed status err))
    | .ok (.ok credential) =>
      some (s, exchanged pending (Function.update auth pending.provider (some credential))
        credential)
  | exchanged pending auth credential =>
    match req.env.save with
    | some err => some (s, refused (failed 500 err))
    | none => some ({ s with auth := auth }, saved pending credential)
  | saved pending credential =>
    some ({ s with pending := Function.update s.pending req.pendingId none },
      succeeded pending credential)
  | succeeded _ _ => none
  | refused _ => none

end Place

namespace State

variable {Cred : Type u}

/-- No request has arrived. -/
def start (stores : Stores Cred) : State Cred := ⟨stores, fun _ ↦ none, []⟩

/-- A request has gone on. -/
def after (s : State Cred) (i : ℕ) (req : Completion Cred) (out : Stores Cred × Place Cred) :
    State Cred where
  stores := out.1
  requests := Function.update s.requests i (some (req, out.2))
  completed := out.2.completed.toList ++ s.completed

/-- One step of one request. -/
def step (s : State Cred) : Move Cred → Option (State Cred)
  | .arrive i req =>
    if (s.requests i).isSome then none else some (s.after i req (s.stores, .arrived))
  | .advance i => (s.requests i).bind fun r ↦ (r.2.next r.1 s.stores).map (s.after i r.1)

variable {s t : State Cred} {i : ℕ} {req : Completion Cred} {place : Place Cred}
  {out : Stores Cred × Place Cred}

@[simp] theorem stores_after : (s.after i req out).stores = out.1 := rfl

@[simp] theorem requests_after_self : (s.after i req out).requests i = some (req, out.2) :=
  Function.update_self ..

theorem requests_after_of_ne {j : ℕ} (h : j ≠ i) :
    (s.after i req out).requests j = s.requests j := Function.update_of_ne h ..

@[simp] theorem completed_after :
    (s.after i req out).completed = out.2.completed.toList ++ s.completed := rfl

theorem step_advance (hplace : s.requests i = some (req, place))
    (hnext : place.next req s.stores = some out) :
    step s (.advance i) = some (s.after i req out) := by
  rw [step, hplace, Option.bind_some, hnext, Option.map_some]

/-- **What a step does.** -/
theorem step_cases {a : Move Cred} (h : step s a = some t) :
    (∃ i req, a = .arrive i req ∧ s.requests i = none ∧
      t = s.after i req (s.stores, .arrived)) ∨
    ∃ i req place out, a = .advance i ∧ s.requests i = some (req, place) ∧
      place.next req s.stores = some out ∧ t = s.after i req out := by
  cases a with
  | arrive i req =>
    rw [step] at h
    split at h
    · cases h
    · rename_i hnone
      exact Or.inl ⟨i, req, rfl, by simpa using hnone, (Option.some.inj h).symm⟩
  | advance i =>
    obtain ⟨⟨req, place⟩, hplace, h⟩ := Option.bind_eq_some_iff.mp h
    obtain ⟨out, hnext, rfl⟩ := Option.map_eq_some_iff.mp h
    exact Or.inr ⟨i, req, place, out, rfl, hplace, hnext, rfl⟩

end State

/-! ## A request that nothing comes between -/

section Alone

variable {Cred : Type u} {s : State Cred} {i : ℕ} {req : Completion Cred} {place q : Place Cred}
  {st st' : Stores Cred} {a : Answer}

/-- The request goes on alone, to an end in which the stores are so and the answer is so. -/
def Ends (s : State Cred) (i : ℕ) (result : Stores Cred × Answer) : Prop :=
  ∃ n t, Machine.exec State.step s (List.replicate n (.advance i)) = some t ∧
    t.stores = result.1 ∧ (t.requests i).bind (fun r ↦ r.2.answer) = some result.2

/-- It goes on, and then ends. -/
theorem exists_next (hplace : s.requests i = some (req, place)) (hst : s.stores = st)
    (hnext : place.next req st = some (st', q)) :
    ∃ r : State Cred, r.requests i = some (req, q) ∧ r.stores = st' ∧
      ∀ result, Ends r i result → Ends s i result := by
  refine ⟨s.after i req (st', q), State.requests_after_self, rfl, ?_⟩
  rintro result ⟨n, t, hexec, hresult⟩
  refine ⟨n + 1, t, ?_, hresult⟩
  rw [List.replicate_succ, Machine.exec_cons, State.step_advance hplace (hst ▸ hnext),
    Option.bind_some, hexec]

/-- It goes on, and has ended. -/
theorem ends_of_next (hplace : s.requests i = some (req, place)) (hst : s.stores = st)
    (hnext : place.next req st = some (st', q)) (ha : q.answer = some a) :
    Ends s i (st', a) := by
  obtain ⟨r, hr, hstores, hback⟩ := exists_next hplace hst hnext
  refine hback _ ⟨0, r, rfl, hstores, ?_⟩
  rw [hr, Option.bind_some, ha]

/-- **A request that nothing comes between** does what `completeLogin` does. -/
theorem exec_alone (hplace : s.requests i = some (req, .arrived)) :
    Ends s i (completeLogin req.env s.stores req.pendingId req.codeInput) := by
  rw [completeLogin]
  split
  · rename_i hpending
    exact ends_of_next hplace rfl (by rw [Place.next, hpending]) rfl
  rename_i pending hpending
  have hfound : Place.arrived.next req s.stores = some (s.stores, .found pending) := by
    rw [Place.next, hpending]
  obtain ⟨r₁, hr₁, hst₁, hback₁⟩ := exists_next hplace rfl hfound
  refine hback₁ _ ?_
  split
  · rename_i err hload
    exact ends_of_next hr₁ hst₁ (by rw [Place.next, hload]) rfl
  rename_i hload
  have hloaded : (Place.found pending).next req s.stores =
      some (s.stores, .loaded pending s.stores.auth) := by rw [Place.next, hload]
  obtain ⟨r₂, hr₂, hst₂, hback₂⟩ := exists_next hr₁ hst₁ hloaded
  refine hback₂ _ ?_
  split
  · rename_i answer hresult
    exact ends_of_next hr₂ hst₂ (by rw [Place.next, hresult]) rfl
  · rename_i err hresult
    exact ends_of_next hr₂ hst₂ (by rw [Place.next, hresult]) rfl
  rename_i credential hresult
  have hexchanged : (Place.loaded pending s.stores.auth).next req s.stores = some (s.stores,
      .exchanged pending (Function.update s.stores.auth pending.provider (some credential))
        credential) := by rw [Place.next, hresult]
  obtain ⟨r₃, hr₃, hst₃, hback₃⟩ := exists_next hr₂ hst₂ hexchanged
  refine hback₃ _ ?_
  split
  · rename_i err hsave
    exact ends_of_next hr₃ hst₃ (by rw [Place.next, hsave]) rfl
  rename_i hsave
  obtain ⟨r₄, hr₄, hst₄, hback₄⟩ := exists_next hr₃ hst₃ (by rw [Place.next, hsave])
  exact hback₄ _ (ends_of_next hr₄ hst₄ rfl rfl)

end Alone

/-! ## No login is lost -/

section Kept

variable {Cred : Type u}

/-- **No login is lost**: the auth file has, for every provider, the credential of the login that
was completed last, and what was in it before is still there. -/
structure LoginsKept (stores : Stores Cred) (s : State Cred) : Prop where
  last : ∀ p c, s.completed.lookup p = some c → s.stores.auth p = some c
  before : ∀ p, stores.auth p ≠ none → s.stores.auth p ≠ none

/-- All the requests report success. -/
def AllSucceeded (s : State Cred) : Prop :=
  ∀ i req place, s.requests i = some (req, place) →
    ∃ a, place.answer = some a ∧ a.success = true

/-- **The condition on what a request does next.**  When it saves, the other providers are in the
file as they were when it loaded it, or have come to be so again; and when it ends, its credential
is still there. -/
def Place.Undisturbed (auth : String → Option Cred) : Place Cred → Prop
  | .exchanged pending copy _ => ∀ p, p ≠ pending.provider → copy p = auth p
  | .saved pending credential => auth pending.provider = some credential
  | _ => True

/-- The condition on a step. -/
def Undisturbed (s : State Cred) : Move Cred → Prop
  | .arrive _ _ => True
  | .advance i => ∀ req place, s.requests i = some (req, place) → place.Undisturbed s.stores.auth

/-- A request for the provider has saved, and is about to end. -/
def AboutToEnd (s : State Cred) (p : String) : Prop :=
  ∃ i req pending credential, s.requests i = some (req, .saved pending credential) ∧
    pending.provider = p

/-- The login that was completed last is in the file, or another one for the provider is about to
end. -/
def Held (s : State Cred) : Prop :=
  ∀ p, (∀ c, s.completed.lookup p = some c → s.stores.auth p = some c) ∨ AboutToEnd s p

/-- The provider is in the file, and in all that has been loaded from it. -/
def Present (p : String) (s : State Cred) : Prop :=
  s.stores.auth p ≠ none ∧ ∀ i req place auth, s.requests i = some (req, place) →
    place.copy = some auth → auth p ≠ none

variable {s t : State Cred} {req : Completion Cred} {place : Place Cred} {st : Stores Cred}
  {out : Stores Cred × Place Cred}

/-- A step that neither saves nor ends with success. -/
structure Quiet (place : Place Cred) (st : Stores Cred) (out : Stores Cred × Place Cred) :
    Prop where
  notSaved : ∀ pending credential, place ≠ .saved pending credential
  auth : out.1.auth = st.auth
  completed : out.2.completed = none
  copy : ∀ auth p, out.2.copy = some auth → st.auth p ≠ none →
    (∀ auth', place.copy = some auth' → auth' p ≠ none) → auth p ≠ none

theorem quiet_refused (a : Answer) (h : ∀ pending credential, place ≠ .saved pending credential) :
    Quiet place st (st, .refused a) :=
  ⟨h, rfl, rfl, fun _ _ hcopy ↦ by cases hcopy⟩

/-- **What the next thing that a request does** is to the file: it saves, or it ends with success,
or it is quiet. -/
theorem next_cases (h : place.next req st = some out) :
    (∃ pending auth credential, place = .exchanged pending auth credential ∧
      out = ({ st with auth := auth }, .saved pending credential)) ∨
    (∃ pending credential, place = .saved pending credential ∧ out.1.auth = st.auth ∧
      out.2 = .succeeded pending credential) ∨
    Quiet place st out := by
  cases place with
  | arrived =>
    rw [Place.next] at h
    split at h
    · exact Option.some.inj h ▸ Or.inr (Or.inr (quiet_refused _ (by simp)))
    · obtain rfl := Option.some.inj h
      exact Or.inr (Or.inr ⟨by simp, rfl, rfl, fun _ _ hcopy ↦ by cases hcopy⟩)
  | found pending =>
    rw [Place.next] at h
    split at h
    · exact Option.some.inj h ▸ Or.inr (Or.inr (quiet_refused _ (by simp)))
    · obtain rfl := Option.some.inj h
      refine Or.inr (Or.inr ⟨by simp, rfl, rfl, fun auth p hcopy hauth _ ↦ ?_⟩)
      exact Option.some.inj hcopy ▸ hauth
  | loaded pending auth =>
    rw [Place.next] at h
    split at h
    · exact Option.some.inj h ▸ Or.inr (Or.inr (quiet_refused _ (by simp)))
    · exact Option.some.inj h ▸ Or.inr (Or.inr (quiet_refused _ (by simp)))
    · obtain rfl := Option.some.inj h
      refine Or.inr (Or.inr ⟨by simp, rfl, rfl, fun auth' p hcopy _ hauth ↦ ?_⟩)
      obtain rfl := Option.some.inj hcopy
      by_cases hp : p = pending.provider
      · rw [hp, Function.update_self]
        simp
      · rw [Function.update_of_ne hp]
        exact hauth auth rfl
  | exchanged pending auth credential =>
    rw [Place.next] at h
    split at h
    · exact Option.some.inj h ▸ Or.inr (Or.inr (quiet_refused _ (by simp)))
    · exact Or.inl ⟨pending, auth, credential, rfl, (Option.some.inj h).symm⟩
  | saved pending credential =>
    obtain rfl := Option.some.inj h
    exact Or.inr (Or.inl ⟨pending, credential, rfl, rfl, rfl⟩)
  | succeeded pending credential => cases h
  | refused a => cases h

/-- Another request that is about to end still is. -/
theorem AboutToEnd.after {i : ℕ} {p : String} (h : AboutToEnd s p)
    (hi : ∀ req pending credential, s.requests i = some (req, .saved pending credential) →
      pending.provider ≠ p) : AboutToEnd (s.after i req out) p := by
  obtain ⟨j, req', pending, credential, hj, hp⟩ := h
  have hne : j ≠ i := by
    rintro rfl
    exact hi req' pending credential hj hp
  exact ⟨j, req', pending, credential, by rw [State.requests_after_of_ne hne, hj], hp⟩

/-- What is held stays so. -/
theorem Held.step {a : Move Cred} (h : Held s) (ha : Undisturbed s a)
    (hstep : State.step s a = some t) : Held t := by
  intro p
  obtain ⟨i, req, rfl, hnone, rfl⟩ | ⟨i, req, place, out, rfl, hplace, hnext, rfl⟩ :=
    State.step_cases hstep
  · exact (h p).imp_right fun hend ↦ hend.after fun _ _ _ hi ↦ by
      rw [hnone] at hi
      cases hi
  obtain ⟨pending, auth, credential, rfl, rfl⟩ | ⟨pending, credential, rfl, hauth, hout⟩ | hquiet :=
    next_cases hnext
  · by_cases hp : pending.provider = p
    · exact Or.inr ⟨i, req, pending, credential, State.requests_after_self, hp⟩
    · have hcopy : auth p = s.stores.auth p :=
        ha req _ hplace p (Ne.symm hp)
      refine (h p).imp (fun hleft c hc ↦ hcopy.trans (hleft c hc)) fun hend ↦ hend.after ?_
      rintro req' pending' credential' hi
      rw [hplace] at hi
      cases hi
  · have hfile : s.stores.auth pending.provider = some credential := ha req _ hplace
    by_cases hp : p = pending.provider
    · refine Or.inl fun c hc ↦ ?_
      rw [State.completed_after, hout, hp] at hc
      rw [State.stores_after, hauth, hp, hfile]
      simpa [Place.completed] using hc
    · refine (h p).imp (fun hleft c hc ↦ ?_) fun hend ↦ hend.after ?_
      · rw [State.completed_after, hout] at hc
        rw [State.stores_after, hauth]
        refine hleft c ?_
        rw [← hc, Place.completed, Option.toList_some, List.singleton_append, List.lookup_cons,
          beq_false_of_ne hp]
      · rintro req' pending' credential' hi
        rw [hplace] at hi
        cases hi
        exact Ne.symm hp
  · refine (h p).imp (fun hleft c hc ↦ ?_) fun hend ↦ hend.after ?_
    · rw [State.stores_after, hquiet.auth]
      rw [State.completed_after, hquiet.completed] at hc
      exact hleft c hc
    · rintro req' pending credential hi
      rw [hplace] at hi
      cases hi
      exact absurd rfl (hquiet.notSaved pending credential)

/-- A provider that is in the file and in what the request has loaded then is present. -/
theorem Present.after {i : ℕ} {p : String} (h : Present p s) (hauth : out.1.auth p ≠ none)
    (hown : ∀ auth, out.2.copy = some auth → auth p ≠ none) : Present p (s.after i req out) := by
  refine ⟨hauth, fun j req' place' auth hj hcopy ↦ ?_⟩
  by_cases hne : j = i
  · subst hne
    rw [State.requests_after_self] at hj
    cases hj
    exact hown auth hcopy
  · rw [State.requests_after_of_ne hne] at hj
    exact h.2 j req' place' auth hj hcopy

/-- What is present stays so, whatever comes between. -/
theorem Present.step {a : Move Cred} {p : String} (h : Present p s)
    (hstep : State.step s a = some t) : Present p t := by
  obtain ⟨i, req, rfl, hnone, rfl⟩ | ⟨i, req, place, out, rfl, hplace, hnext, rfl⟩ :=
    State.step_cases hstep
  · exact h.after h.1 fun auth hcopy ↦ by cases hcopy
  obtain ⟨pending, auth, credential, rfl, rfl⟩ | ⟨pending, credential, rfl, hauth, hout⟩ | hquiet :=
    next_cases hnext
  · exact h.after (h.2 i req _ auth hplace rfl) fun auth' hcopy ↦ by cases hcopy
  · refine h.after (hauth ▸ h.1) fun auth' hcopy ↦ ?_
    rw [hout] at hcopy
    cases hcopy
  · refine h.after (hquiet.auth ▸ h.1) fun auth' hcopy ↦ ?_
    exact hquiet.copy auth' p hcopy h.1 fun auth'' hcopy' ↦ h.2 i req place auth'' hplace hcopy'

/-- **No login is lost**, for every interleaving of any number of requests that all succeed, where
every step is undisturbed. -/
theorem loginsKept_of_guarded (stores : Stores Cred) (as : List (Move Cred)) {t : State Cred}
    (hrun : Machine.exec State.step (State.start stores) as = some t)
    (hguard : Machine.Guarded State.step Undisturbed (State.start stores) as)
    (hall : AllSucceeded t) : LoginsKept stores t := by
  have hheld : Held t := Machine.inv_of_guarded (fun _ _ _ h ha hstep ↦ h.step ha hstep)
    (fun p ↦ Or.inl fun c hc ↦ by cases hc) hguard hrun
  refine ⟨fun p c hc ↦ ?_, fun p hp ↦ ?_⟩
  · obtain hleft | ⟨i, req, pending, credential, hi, -⟩ := hheld p
    · exact hleft c hc
    · obtain ⟨a, ha, -⟩ := hall i req _ hi
      cases ha
  · have hstart : Present p (State.start stores) :=
      ⟨hp, fun i req place auth hi ↦ by cases hi⟩
    exact (Machine.inv_of_exec (fun _ _ _ h hstep ↦ Present.step h hstep) hstart hrun).1

end Kept

/-! ## Two logins -/

/-- Nothing is stored, and two logins are pending. -/
def twoPending : Stores Unit where
  auth _ := none
  keychain _ := none
  pending pendingId :=
    if pendingId = "1" then some ⟨"anthropic", .oauth, "v", none⟩
    else if pendingId = "2" then some ⟨"openai-codex", .oauth, "w", none⟩
    else none
  now := 0

/-- A request for one of them, in which everything succeeds. -/
def completion (pendingId : String) : Completion Unit := ⟨exampleEnv, pendingId, some "code"⟩

/-- One login after the other. -/
def apart : List (Move Unit) :=
  .arrive 0 (completion "1") :: List.replicate 5 (.advance 0) ++
    .arrive 1 (completion "2") :: List.replicate 5 (.advance 1)

/-- The second login loads the file before the first one saves. -/
def across : List (Move Unit) :=
  [.arrive 0 (completion "1"), .arrive 1 (completion "2"), .advance 0, .advance 1, .advance 0,
    .advance 1, .advance 0, .advance 1, .advance 0, .advance 0, .advance 1, .advance 1]

theorem loginsKept_of_guarded_example : ∃ t,
    Machine.exec State.step (State.start twoPending) apart = some t ∧ LoginsKept twoPending t := by
  refine ⟨_, rfl, loginsKept_of_guarded twoPending apart rfl ?_ ?_⟩
  · refine .cons rfl trivial (.cons rfl ?_ (.cons rfl ?_ (.cons rfl ?_ (.cons rfl ?_ (.cons rfl ?_
      (.cons rfl trivial (.cons rfl ?_ (.cons rfl ?_ (.cons rfl ?_ (.cons rfl ?_
        (.cons rfl ?_ trivial)))))))))))
    all_goals rintro req place hi; cases hi
    any_goals trivial
    all_goals exact fun p hp ↦ Function.update_of_ne hp ..
  · intro i req place hi
    obtain _ | _ | i := i
    · cases hi
      exact ⟨_, rfl, rfl⟩
    · cases hi
      exact ⟨_, rfl, rfl⟩
    · cases hi

/-- **A login is lost**: the second request writes back what it has loaded before the first one has
saved, and both succeed. -/
theorem not_loginsKept_of_exec :
    ¬ ∀ (stores : Stores Unit) (as : List (Move Unit)) (t : State Unit),
    Machine.exec State.step (State.start stores) as = some t → AllSucceeded t →
      LoginsKept stores t := by
  intro hall
  have hkept := hall twoPending across _ rfl fun i req place hi ↦ by
    obtain _ | _ | i := i
    · cases hi
      exact ⟨_, rfl, rfl⟩
    · cases hi
      exact ⟨_, rfl, rfl⟩
    · cases hi
  have hlost : some () = none := (hkept.last "anthropic" () rfl).symm
  cases hlost

end WorkWithMe.Server.Completions
