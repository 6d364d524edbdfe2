import WorkWithMe.Lib.Machine
import WorkWithMe.Server.Login

/-!
# Callbacks that arrive at the same time

The callback of a login carries a state that the server has put into the keychain.
`validate_and_remove_auth_state` reads it, looks whether it has expired, and deletes it, so that it
cannot be used again.  These are separate calls of the keychain, and the answer of the last one,
whether there was something to delete, is dropped.

* `Place` is how far a callback has come, and `step` what one of them does next, at one call of the
  keychain a step; the time may go on in between.
* `exec_alone` is that a callback that nothing comes between does what `callback` of
  `WorkWithMe.Server.Login` does.
* `UsedOnce` is the law: at most one callback goes on to the exchange, none that finds that the
  state has expired, and the state is gone afterwards.  **`usedOnce_of_guarded`** is that it holds
  where every callback that deletes a valid state finds it still there.
* `not_usedOnce_of_exec` is a run of two callbacks that both go on.
-/

set_option autoImplicit false

namespace WorkWithMe.Server.AuthStates

open Credentials Login

universe u

/-! ## The callbacks -/

/-- A callback that carries the state, with what it is answered by its environment. -/
structure Visit (Cred : Type u) where
  env : Env Cred
  error : Option String
  code : Option String

/-- How far a callback has come. -/
inductive Place where
  /-- It is about to read the state. -/
  | arrived
  /-- It is about to look whether the state has expired. -/
  | found (authState : AuthState)
  /-- It is about to delete the state, which has expired. -/
  | expired
  /-- It is about to delete the state, which has not. -/
  | valid (authState : AuthState)
  /-- It is about to exchange the code. -/
  | passed (provider : String)
  /-- It is over. -/
  | answered (a : Answer)

/-- The key of a state. -/
def stateKey (state : String) : String := "oauth_state_" ++ state

/-- The account of a state. -/
def stateAccount (state : String) : String := formatAccount (stateKey state)

section Next

variable {Cred : Type u} (serde : Serde) (state : String)

/-- The rest of `callback`, behind the validation. -/
def exchanged (e : Env Cred) (s : Stores Cred) (provider : String) : Stores Cred × Answer :=
  match exchangeCodeForToken serde e s s.keychain provider with
  | .ok (creds, k) =>
    ({ s with keychain := k },
      ⟨200, .obj [("success", .bool true), ("credentials", .obj [
        ("provider", .str creds.provider), ("access_token", .str creds.accessToken),
        ("refresh_token", optStr creds.refreshToken),
        ("expires_at", (creds.expiresAt.map fun t ↦ Json.num (toString t)).getD .null)])]⟩)
  | .error err => (s, failed 500 ("Token exchange failed: " ++ err))

/-- The answer when the validation fails. -/
def invalid (err : String) : Place := .answered (failed 400 ("State validation failed: " ++ err))

/-- The next thing a callback does. -/
def Place.next (v : Visit Cred) (s : Stores Cred) : Place → Option (Stores Cred × Place)
  | arrived =>
    match v.error, v.code with
    | some err, _ => some (s, .answered (failed 400 ("OAuth error: " ++ err)))
    | none, none => some (s, .answered (failed 400 "Missing authorization code"))
    | none, some _ =>
      match s.keychain.get v.env.faults (stateKey state) with
      | .error err => some (s, invalid err)
      | .ok none => some (s, invalid "State not found or invalid")
      | .ok (some json) =>
        match serde.readState json with
        | .error err => some (s, invalid ("Failed to parse auth state: " ++ err))
        | .ok authState => some (s, .found authState)
  | found authState => some (s, if authState.isExpired s.now then .expired else .valid authState)
  | expired =>
    -- whether the deletion fails is not looked at
    some (match s.keychain.delete v.env.faults (stateKey state) with
      | .ok (_, k) => { s with keychain := k }
      | .error _ => s, invalid "State has expired. Please restart the login process.")
  | valid authState =>
    match s.keychain.delete v.env.faults (stateKey state) with
    | .error err => some (s, invalid err)
    | .ok (_, k) => some ({ s with keychain := k }, .passed authState.provider)
  | passed provider =>
    some ((exchanged serde v.env s provider).1, .answered (exchanged serde v.env s provider).2)
  | answered _ => none

end Next

/-! ## Any number of them -/

/-- A callback, when it has looked whether the state has expired, or else has arrived, and how far
it has come. -/
structure Caller (Cred : Type u) where
  visit : Visit Cred
  looked : ℤ
  place : Place

/-- The keychain and the time, the callbacks, and those that have gone on to the exchange, the last
first. -/
structure State (Cred : Type u) where
  stores : Stores Cred
  callers : ℕ → Option (Caller Cred)
  entered : List ℕ

/-- A label of the interleaving. -/
inductive Move (Cred : Type u) where
  /-- A callback arrives. -/
  | arrive (i : ℕ) (v : Visit Cred)
  /-- A callback goes on. -/
  | advance (i : ℕ)
  /-- The time goes on. -/
  | wait (d : ℕ)

/-- It is about to look whether the state has expired. -/
def Place.looks : Place → Bool
  | found _ => true
  | _ => false

/-- It is about to exchange the code. -/
def Place.isPassed : Place → Bool
  | passed _ => true
  | _ => false

namespace State

variable {Cred : Type u} (serde : Serde) (state : String)

/-- No callback has arrived. -/
def start (stores : Stores Cred) : State Cred := ⟨stores, fun _ ↦ none, []⟩

/-- A callback has gone on. -/
def after (s : State Cred) (i : ℕ) (c : Caller Cred) (out : Stores Cred × Place) : State Cred where
  stores := out.1
  callers := Function.update s.callers i
    (some ⟨c.visit, if c.place.looks then s.stores.now else c.looked, out.2⟩)
  entered := if out.2.isPassed then i :: s.entered else s.entered

section

variable {s : State Cred} {i : ℕ} {c : Caller Cred} {out : Stores Cred × Place}

theorem entered_after_of_passed (h : out.2.isPassed = true) :
    (s.after i c out).entered = i :: s.entered := if_pos h

theorem entered_after_of_not_passed (h : ¬ out.2.isPassed = true) :
    (s.after i c out).entered = s.entered := if_neg h

theorem callers_after_self : (s.after i c out).callers i =
    some ⟨c.visit, if c.place.looks then s.stores.now else c.looked, out.2⟩ :=
  Function.update_self ..

theorem callers_after_of_ne {j : ℕ} (h : j ≠ i) : (s.after i c out).callers j = s.callers j :=
  Function.update_of_ne h ..

/-- A callback that is there is the one that has gone on, or is as it was. -/
theorem callers_after_eq_some {j : ℕ} {d : Caller Cred}
    (h : (s.after i c out).callers j = some d) :
    (j = i ∧ d = ⟨c.visit, if c.place.looks then s.stores.now else c.looked, out.2⟩) ∨
      s.callers j = some d := by
  by_cases hj : j = i
  · subst hj
    rw [callers_after_self] at h
    exact .inl ⟨rfl, (Option.some.inj h).symm⟩
  · rw [callers_after_of_ne hj] at h
    exact .inr h

/-- One that has entered the exchange had done so, or does so now. -/
theorem mem_entered_after {j : ℕ} (h : j ∈ (s.after i c out).entered) :
    j ∈ s.entered ∨ (j = i ∧ out.2.isPassed = true) := by
  by_cases hpassed : out.2.isPassed = true
  · rw [entered_after_of_passed hpassed, List.mem_cons] at h
    exact h.symm.imp_right fun hj ↦ ⟨hj, hpassed⟩
  · rw [entered_after_of_not_passed hpassed] at h
    exact .inl h

end

/-- One step of one callback. -/
def step (s : State Cred) : Move Cred → Option (State Cred)
  | .arrive i v =>
    if (s.callers i).isSome then none
    else some { s with
      callers := Function.update s.callers i (some ⟨v, s.stores.now, .arrived⟩) }
  | .advance i =>
    (s.callers i).bind fun c ↦ (c.place.next serde state c.visit s.stores).map (s.after i c)
  | .wait d => some { s with stores := { s.stores with now := s.stores.now + d } }

end State

/-! ## The law -/

section Law

variable {Cred : Type u} (serde : Serde) (state : String) (authState : AuthState)

/-- The callback has a code and no error, and its calls of the keychain do not fail. -/
def Visit.Usual (v : Visit Cred) : Prop :=
  v.error = none ∧ v.code.isSome ∧ v.env.faults.get (stateAccount state) = none ∧
    v.env.faults.delete (stateAccount state) = none

/-- **A state can be used once.** -/
structure UsedOnce (s : State Cred) : Prop where
  /-- At most one callback has gone on to the exchange. -/
  atMostOne : s.entered.length ≤ 1
  /-- None for which the state had expired. -/
  unexpired : ∀ i ∈ s.entered, ∃ c, s.callers i = some c ∧ authState.isExpired c.looked = false
  /-- When one has gone on, the state is gone. -/
  removed : s.entered ≠ [] → s.stores.keychain (stateAccount state) = none
  /-- So it is when one is over. -/
  ended : ∀ i c a, s.callers i = some c → c.visit.Usual state → c.place = .answered a →
    s.stores.keychain (stateAccount state) = none

/-- **What may be done**: a callback that deletes a valid state finds it still there. -/
def StillThere (s : State Cred) : Move Cred → Prop
  | .arrive _ _ => True
  | .advance i => ∀ c a, s.callers i = some c → c.place = .valid a →
    c.visit.env.faults.delete (stateAccount state) = none →
      s.stores.keychain (stateAccount state) ≠ none
  | .wait _ => True

end Law

/-! ## What a callback does next -/

section Next

variable {Cred : Type u} {serde : Serde} {state json : String} {authState : AuthState}
  {v : Visit Cred} {st st' : Stores Cred} {place place' : Place} {looked : ℤ}

/-- What a callback knows of the state is what was stored, and that it had not expired. -/
def Place.Fits (authState : AuthState) (looked : ℤ) : Place → Prop
  | .found a => a = authState
  | .valid a => a = authState ∧ authState.isExpired looked = false
  | _ => True

/-- It has had all its calls of the keychain for the state. -/
def Place.isOver : Place → Bool
  | passed _ => true
  | answered _ => true
  | _ => false

theorem Place.isOver_of_isPassed (h : place.isPassed = true) : place.isOver = true := by
  cases place with
  | passed provider => rfl
  | _ => cases h

theorem Place.looks_of_isOver (h : place.isOver = true) : place.looks = false := by
  cases place with
  | found a => cases h
  | _ => rfl

/-- What is deleted is gone. -/
theorem delete_self {f : Faults} {k k' : Keychain} {found : Bool}
    (h : k.delete f (stateKey state) = .ok (found, k')) :
    f.delete (stateAccount state) = none ∧ k' (stateAccount state) = none := by
  rw [Keychain.delete] at h
  split at h
  · rename_i hfault
    obtain ⟨-, rfl⟩ := Prod.mk.inj (Except.ok.inj h)
    exact ⟨hfault, Function.update_self ..⟩
  · cases h
  · cases h

theorem delete_ne_error (hv : v.Usual state) (k : Keychain) (err : String) :
    k.delete v.env.faults (stateKey state) ≠ .error err := by
  have hfault : v.env.faults.delete (formatAccount (stateKey state)) = none := hv.2.2.2
  rw [Keychain.delete, hfault]
  exact fun h ↦ by cases h

theorem get_ne_error (hv : v.Usual state) (k : Keychain) (err : String) :
    k.get v.env.faults (stateKey state) ≠ .error err := by
  have hfault : v.env.faults.get (formatAccount (stateKey state)) = none := hv.2.2.1
  rw [Keychain.get, hfault]
  exact fun h ↦ by cases h

theorem get_eq_ok {f : Faults} {k : Keychain} {stored : Option String}
    (h : k.get f (stateKey state) = .ok stored) : stored = k (stateAccount state) := by
  rw [Keychain.get] at h
  split at h
  · exact (Except.ok.inj h).symm
  · cases h
  · cases h

/-- Credentials are not stored in the account of a state. -/
theorem stateAccount_ne (s p uid : String) :
    stateAccount s ≠ formatAccount (credentialsKey p uid) := by
  rw [stateAccount, Ne, formatAccount_inj, stateKey, credentialsKey]
  intro h
  have hchar := congrArg (fun s : String ↦ s.toList[6]?) h
  simp at hchar

/-- The exchange leaves the state alone. -/
theorem exchanged_keychain (state : String) (serde : Serde) (e : Env Cred) (st : Stores Cred)
    (provider : String) :
    (exchanged serde e st provider).1.keychain (stateAccount state) =
      st.keychain (stateAccount state) := by
  rw [exchanged]
  cases hexchange : exchangeCodeForToken serde e st st.keychain provider with
  | error err => rfl
  | ok result =>
    obtain ⟨creds, k⟩ := result
    rw [exchangeCodeForToken] at hexchange
    split at hexchange
    · cases hexchange
    split at hexchange
    · cases hexchange
    · cases hexchange
    dsimp only at hexchange
    split at hexchange
    · cases hexchange
    rename_i hstore
    obtain ⟨-, rfl⟩ := Prod.mk.inj (Except.ok.inj hexchange)
    exact storeCredentials_keychain hstore (stateAccount_ne state _ _)

/-- **What the next step of a callback does**, where the state that is stored, if it is, is the text
of `authState`, and `looked` is when the callback has looked after the step. -/
structure Advance (state : String) (authState : AuthState) (looked : ℤ) (v : Visit Cred)
    (st : Stores Cred) (place : Place) (st' : Stores Cred) (place' : Place) : Prop where
  /-- The state is as it was, or gone. -/
  keychain : st'.keychain (stateAccount state) = st.keychain (stateAccount state) ∨
    st'.keychain (stateAccount state) = none
  /-- What the callback knows is right. -/
  fits : place'.Fits authState looked
  /-- It goes on to the exchange from a valid state, which is gone then. -/
  passed : place'.isPassed = true → place = .valid authState ∧
    authState.isExpired looked = false ∧ v.env.faults.delete (stateAccount state) = none ∧
      st'.keychain (stateAccount state) = none
  /-- What is over stays so. -/
  stays : place.isOver = true → place'.isOver = true
  /-- When a usual callback is over, the state is gone. -/
  ended : v.Usual state → place'.isOver = true →
    (place.isOver = true → st.keychain (stateAccount state) = none) →
      st'.keychain (stateAccount state) = none

/-- A callback that ends with an error of its own. -/
theorem advance_answered (a : Answer)
    (hkeep : v.Usual state → st.keychain (stateAccount state) = none) :
    Advance state authState looked v st place st (.answered a) :=
  ⟨.inl rfl, trivial, fun h ↦ (by cases h), fun _ ↦ rfl, fun hv _ _ ↦ hkeep hv⟩

theorem advance_of_arrived (hread : serde.readState json = .ok authState)
    (hstored : ∀ text ∈ st.keychain (stateAccount state), text = json)
    (h : Place.arrived.next serde state v st = some (st', place')) :
    Advance state authState looked v st .arrived st' place' := by
  rw [Place.next] at h
  split at h
  · rename_i herror
    cases h
    exact advance_answered _ fun hv ↦ by rw [hv.1] at herror; cases herror
  · rename_i hcode
    cases h
    exact advance_answered _ fun hv ↦ by have hsome := hv.2.1; rw [hcode] at hsome; cases hsome
  split at h
  · rename_i err hget
    cases h
    exact advance_answered _ fun hv ↦ (get_ne_error hv _ err hget).elim
  · rename_i hget
    cases h
    exact advance_answered _ fun _ ↦ (get_eq_ok hget).symm
  · rename_i text hget
    obtain rfl := hstored text (get_eq_ok hget).symm
    rw [hread] at h
    cases h
    exact ⟨.inl rfl, rfl, fun h ↦ (by cases h), fun h ↦ (by cases h), fun _ h ↦ by cases h⟩

theorem advance_of_next (hread : serde.readState json = .ok authState)
    (hstored : ∀ text ∈ st.keychain (stateAccount state), text = json)
    (hfits : place.Fits authState looked)
    (h : place.next serde state v st = some (st', place')) :
    Advance state authState (if place.looks then st.now else looked) v st place st' place' := by
  cases place with
  | arrived => exact advance_of_arrived hread hstored h
  | found a =>
    obtain rfl : a = authState := hfits
    cases h
    by_cases hexpired : a.isExpired st.now = true
    · rw [if_pos hexpired]
      exact ⟨.inl rfl, trivial, fun h ↦ (by cases h), fun h ↦ (by cases h), fun _ h ↦ by cases h⟩
    · rw [if_neg hexpired]
      exact ⟨.inl rfl, ⟨rfl, eq_false_of_ne_true hexpired⟩, fun h ↦ (by cases h),
        fun h ↦ (by cases h), fun _ h ↦ by cases h⟩
  | expired =>
    cases hdelete : st.keychain.delete v.env.faults (stateKey state) with
    | ok result =>
      obtain ⟨found, k⟩ := result
      rw [Place.next, hdelete] at h
      cases h
      have hgone := (delete_self hdelete).2
      exact ⟨.inr hgone, trivial, fun h ↦ (by cases h), fun _ ↦ rfl, fun _ _ _ ↦ hgone⟩
    | error err =>
      rw [Place.next, hdelete] at h
      cases h
      exact advance_answered _ fun hv ↦ (delete_ne_error hv _ err hdelete).elim
  | valid a =>
    obtain ⟨rfl, hvalid⟩ := hfits
    rw [Place.next] at h
    split at h
    · rename_i err hdelete
      cases h
      exact advance_answered _ fun hv ↦ (delete_ne_error hv _ err hdelete).elim
    · rename_i found k hdelete
      cases h
      obtain ⟨hfault, hgone⟩ := delete_self hdelete
      exact ⟨.inr hgone, trivial, fun _ ↦ ⟨rfl, hvalid, hfault, hgone⟩, fun _ ↦ rfl,
        fun _ _ _ ↦ hgone⟩
  | passed provider =>
    cases h
    have hkeychain := exchanged_keychain state serde v.env st provider
    exact ⟨.inl hkeychain, trivial, fun h ↦ (by cases h), fun _ ↦ rfl,
      fun _ _ hover ↦ hkeychain.trans (hover rfl)⟩
  | answered a => cases h

end Next

/-! ## A callback alone -/

section Alone

variable {Cred : Type u} {serde : Serde} {state : String} {s : State Cred} {i : ℕ} {v : Visit Cred}
  {st st' : Stores Cred} {place place' : Place} {result : Stores Cred × Answer}

/-- The callback has come so far, and the stores are so. -/
def At (s : State Cred) (i : ℕ) (v : Visit Cred) (st : Stores Cred) (place : Place) : Prop :=
  s.stores = st ∧ ∃ looked, s.callers i = some ⟨v, looked, place⟩

/-- The callback goes on alone, to an end in which the stores are so and the answer is so. -/
def Ends (serde : Serde) (state : String) (s : State Cred) (i : ℕ) (v : Visit Cred)
    (result : Stores Cred × Answer) : Prop :=
  ∃ n t, Machine.exec (State.step serde state) s (List.replicate n (.advance i)) = some t ∧
    At t i v result.1 (.answered result.2)

/-- It goes on, and then ends. -/
theorem ends_of_next (h : At s i v st place)
    (hnext : place.next serde state v st = some (st', place'))
    (hends : ∀ t, At t i v st' place' → Ends serde state t i v result) :
    Ends serde state s i v result := by
  obtain ⟨rfl, looked, hc⟩ := h
  obtain ⟨n, t, hexec, hresult⟩ := hends (s.after i ⟨v, looked, place⟩ (st', place'))
    ⟨rfl, _, State.callers_after_self⟩
  refine ⟨n + 1, t, ?_, hresult⟩
  have hstep : s.step serde state (.advance i) =
      some (s.after i ⟨v, looked, place⟩ (st', place')) := by
    rw [State.step, hc, Option.bind_some, hnext]
    rfl
  rw [List.replicate_succ, Machine.exec_cons, hstep, Option.bind_some, hexec]

/-- It goes on, and is over. -/
theorem ends_of_answered {a : Answer} (h : At s i v st place)
    (hnext : place.next serde state v st = some (st', .answered a)) :
    Ends serde state s i v (st', a) :=
  ends_of_next h hnext fun t ht ↦ ⟨0, t, rfl, ht⟩

/-- It deletes the state that is valid, and does the rest of `callback`. -/
theorem ends_of_valid {authState : AuthState} {deleted : Bool} {k : Keychain}
    (hdelete : st.keychain.delete v.env.faults (stateKey state) = .ok (deleted, k))
    (h : At s i v st (.valid authState)) :
    Ends serde state s i v
      (exchanged serde v.env { st with keychain := k } authState.provider) :=
  ends_of_next h (by rw [Place.next, hdelete]) fun _ ht ↦ ends_of_answered ht rfl

/-- **A callback that nothing comes between** does what `callback` does. -/
theorem exec_alone (h : At s i v st .arrived) :
    Ends serde state s i v (callback serde v.env st v.error v.code (some state)) := by
  obtain ⟨env, error, code⟩ := v
  cases error with
  | some err => cases code <;> exact ends_of_answered h rfl
  | none =>
    cases code with
    | none => exact ends_of_answered h rfl
    | some code =>
      dsimp only [callback]
      rw [validateAndRemoveAuthState, ← stateKey]
      cases hget : st.keychain.get env.faults (stateKey state) with
      | error err => exact ends_of_answered h (by rw [Place.next, hget]; rfl)
      | ok stored =>
        cases stored with
        | none => exact ends_of_answered h (by rw [Place.next, hget]; rfl)
        | some json =>
          dsimp only
          cases hread : serde.readState json with
          | error err => exact ends_of_answered h (by rw [Place.next, hget]; simp only [hread]; rfl)
          | ok authState =>
            have hfound : Place.arrived.next serde state ⟨env, none, some code⟩ st =
                some (st, .found authState) := by
              rw [Place.next, hget]
              simp only [hread]
            -- it looks whether the state has expired, and deletes it
            refine ends_of_next h hfound fun r hr ↦ ends_of_next hr rfl fun t ht ↦ ?_
            dsimp only
            by_cases hexpired : authState.isExpired st.now = true
            · rw [if_pos hexpired] at ht
              simp only [if_pos hexpired]
              cases hdelete : st.keychain.delete env.faults (stateKey state) with
              | error err => exact ends_of_answered ht (by rw [Place.next, hdelete]; rfl)
              | ok result => exact ends_of_answered ht (by rw [Place.next, hdelete]; rfl)
            · rw [if_neg hexpired] at ht
              simp only [if_neg hexpired]
              cases hdelete : st.keychain.delete env.faults (stateKey state) with
              | error err => exact ends_of_answered ht (by rw [Place.next, hdelete]; rfl)
              | ok result => exact ends_of_valid hdelete ht

end Alone

/-! ## Runs in which the state is still there -/

section Kept

variable {Cred : Type u} {serde : Serde} {state json : String} {authState : AuthState}
  {s t : State Cred}

/-- **The invariant of the run.** -/
structure Kept (state json : String) (authState : AuthState) (s : State Cred) : Prop where
  /-- The state that is stored, if it is, is the one that was. -/
  stored : ∀ text ∈ s.stores.keychain (stateAccount state), text = json
  /-- What the callbacks know of it is right. -/
  fits : ∀ i c, s.callers i = some c → c.place.Fits authState c.looked
  /-- At most one has gone on. -/
  atMostOne : s.entered.length ≤ 1
  /-- Those that have gone on have looked, and will not look again. -/
  unexpired : ∀ i ∈ s.entered, ∃ c, s.callers i = some c ∧ authState.isExpired c.looked = false ∧
    c.place.isOver = true
  /-- When one has gone on, the state is gone. -/
  removed : s.entered ≠ [] → s.stores.keychain (stateAccount state) = none
  /-- So it is when a usual one is over. -/
  ended : ∀ i c, s.callers i = some c → c.visit.Usual state → c.place.isOver = true →
    s.stores.keychain (stateAccount state) = none

theorem Kept.usedOnce (h : Kept state json authState s) : UsedOnce state authState s where
  atMostOne := h.atMostOne
  unexpired i hi :=
    have ⟨c, hc, hexpired, _⟩ := h.unexpired i hi
    ⟨c, hc, hexpired⟩
  removed := h.removed
  ended i c a hc hv ha := h.ended i c hc hv (by rw [ha]; rfl)

theorem Kept.start {stores : Stores Cred}
    (hstored : stores.keychain (stateAccount state) = some json) :
    Kept state json authState (State.start stores) where
  stored text h := by
    rw [State.start, hstored] at h
    exact (Option.some.inj h).symm
  fits _ _ hc := by cases hc
  atMostOne := Nat.zero_le 1
  unexpired _ hi := by cases hi
  removed h := (h rfl).elim
  ended _ _ hc := by cases hc

/-- A callback arrives. -/
theorem Kept.arrive (h : Kept state json authState s) {i : ℕ} (hi : s.callers i = none)
    (v : Visit Cred) :
    Kept state json authState { s with
      callers := Function.update s.callers i (some ⟨v, s.stores.now, .arrived⟩) } where
  stored := h.stored
  fits j c hc := by
    by_cases hj : j = i
    · subst hj
      cases (Function.update_self ..).symm.trans hc
      trivial
    · exact h.fits j c ((Function.update_of_ne hj ..).symm.trans hc)
  atMostOne := h.atMostOne
  unexpired j hj := by
    obtain ⟨c, hc, hlooked⟩ := h.unexpired j hj
    have hne : j ≠ i := by
      rintro rfl
      rw [hi] at hc
      cases hc
    exact ⟨c, (Function.update_of_ne hne ..).trans hc, hlooked⟩
  removed := h.removed
  ended j c hc hv hover := by
    by_cases hj : j = i
    · subst hj
      cases (Function.update_self ..).symm.trans hc
      cases hover
    · exact h.ended j c ((Function.update_of_ne hj ..).symm.trans hc) hv hover

/-- None has entered the exchange before one that does. -/
theorem Kept.entered_eq_nil (h : Kept state json authState s) {i : ℕ} {c : Caller Cred} {looked : ℤ}
    {out : Stores Cred × Place} (hc : s.callers i = some c)
    (hout : Advance state authState looked c.visit s.stores c.place out.1 out.2)
    (hthere : StillThere state s (.advance i)) (hpassed : out.2.isPassed = true) :
    s.entered = [] := by
  obtain ⟨hplace, -, hfault, -⟩ := hout.passed hpassed
  by_contra hne
  exact hthere c authState hc hplace hfault (h.removed hne)

/-- A callback goes on. -/
theorem Kept.after (h : Kept state json authState s) {i : ℕ} {c : Caller Cred}
    (hc : s.callers i = some c) {out : Stores Cred × Place}
    (hout : Advance state authState (if c.place.looks then s.stores.now else c.looked) c.visit
      s.stores c.place out.1 out.2)
    (hthere : StillThere state s (.advance i)) : Kept state json authState (s.after i c out) := by
  have hgone : s.stores.keychain (stateAccount state) = none →
      out.1.keychain (stateAccount state) = none := fun hnone ↦
    hout.keychain.elim (fun hsame ↦ hsame.trans hnone) id
  constructor
  · intro text htext
    obtain hsame | hnone := hout.keychain
    · exact h.stored text (hsame ▸ htext)
    · cases hnone ▸ htext
  · intro j d hd
    obtain ⟨rfl, rfl⟩ | hold := State.callers_after_eq_some hd
    · exact hout.fits
    · exact h.fits j d hold
  · by_cases hpassed : out.2.isPassed = true
    · rw [State.entered_after_of_passed hpassed, h.entered_eq_nil hc hout hthere hpassed,
        List.length_singleton]
    · rw [State.entered_after_of_not_passed hpassed]
      exact h.atMostOne
  · intro j hj
    obtain hold | ⟨rfl, hpassed⟩ := State.mem_entered_after hj
    · obtain ⟨d, hd, hexpired, hover⟩ := h.unexpired j hold
      by_cases hji : j = i
      · -- it has looked, and does not look again
        subst hji
        cases hc.symm.trans hd
        refine ⟨_, State.callers_after_self, ?_, hout.stays hover⟩
        rw [if_neg (by rw [Place.looks_of_isOver hover]; exact Bool.false_ne_true)]
        exact hexpired
      · exact ⟨d, (State.callers_after_of_ne hji).trans hd, hexpired, hover⟩
    · exact ⟨_, State.callers_after_self, (hout.passed hpassed).2.1,
        Place.isOver_of_isPassed hpassed⟩
  · intro hne
    by_cases hpassed : out.2.isPassed = true
    · exact (hout.passed hpassed).2.2.2
    · rw [State.entered_after_of_not_passed hpassed] at hne
      exact hgone (h.removed hne)
  · intro j d hd hv hover
    obtain ⟨rfl, rfl⟩ | hold := State.callers_after_eq_some hd
    · exact hout.ended hv hover fun hbefore ↦ h.ended j c hc hv hbefore
    · exact hgone (h.ended j d hold hv hover)

/-- **One step.** -/
theorem Kept.step (hread : serde.readState json = .ok authState) {m : Move Cred}
    (h : Kept state json authState s) (hthere : StillThere state s m)
    (hstep : s.step serde state m = some t) : Kept state json authState t := by
  cases m with
  | arrive i v =>
    rw [State.step] at hstep
    split at hstep
    · cases hstep
    · rename_i hnone
      cases hstep
      exact h.arrive (Option.not_isSome_iff_eq_none.mp hnone) v
  | advance i =>
    obtain ⟨c, hc, hnext⟩ := Option.bind_eq_some_iff.mp hstep
    obtain ⟨out, hout, rfl⟩ := Option.map_eq_some_iff.mp hnext
    exact h.after hc (advance_of_next hread h.stored (h.fits i c hc) hout) hthere
  | wait d =>
    cases hstep
    exact ⟨h.stored, h.fits, h.atMostOne, h.unexpired, h.removed, h.ended⟩

end Kept

/-! ## Two callbacks at the same time -/

/-- A login with Google, for ten minutes. -/
def exampleState : AuthState := ⟨"google", "c3f1", 0, 600⟩

/-- The text that is in the keychain is that of `exampleState`. -/
def exampleSerde : Serde :=
  ⟨fun _ ↦ .error "EOF while parsing", fun _ ↦ .ok "{}", fun _ ↦ .ok exampleState⟩

/-- The state is in the keychain. -/
def exampleStores : Stores Unit where
  auth _ := none
  keychain := Function.update (fun _ ↦ none) (stateAccount "c3f1") (some "{}")
  pending _ := none
  now := 5

/-- A callback with a code, for which nothing fails. -/
def exampleVisit : Visit Unit where
  env := {
    wait := 0
    faults := .none
    pendingId := "1"
    startDevice := .error "timeout"
    startOauth := .error "timeout"
    authError := id
    load := none
    save := none
    complete := .ok ()
    poll := .pending
    exchange := .ok ⟨"ya29", none, none⟩ }
  error := none
  code := some "4/0A"

/-- One callback is over before the next one arrives. -/
def exampleMoves : List (Move Unit) :=
  [.arrive 0 exampleVisit, .advance 0, .advance 0, .advance 0, .advance 0, .arrive 1 exampleVisit,
    .advance 1]

/-- Both have looked before one of them deletes the state. -/
def exampleRace : List (Move Unit) :=
  [.arrive 0 exampleVisit, .arrive 1 exampleVisit, .advance 0, .advance 1, .advance 0, .advance 1,
    .advance 0, .advance 1]

end WorkWithMe.Server.AuthStates
