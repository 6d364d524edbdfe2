import WorkWithMe.Lib.Json
import WorkWithMe.Lib.Machine
import WorkWithMe.Server.Credentials
import Mathlib.Data.List.Infix

/-!
# Login and logout

`server/oauth_endpoints.rs`.  There are two ways to log in.  `login` and `complete_login` leave a
credential in the auth file of the agent, under the name of the provider; the `callback` of an OAuth
flow leaves one in the keychain, under a key that is made of the provider and of the user `default`.
There is one way to log out: `logout` deletes an entry of the keychain, under the key that is made
of the provider and of the user id that comes with the request.

* `Stores` are the places where credentials are, and `handle` is what a request does to them.
* `LoggedOut` says what should hold once a provider is logged out: `status` does not list it, and
  nothing that is stored for it is used.
* `loggedOut_logout_iff` says after which logouts that is so, and **`inverse_of_guarded`** that in a
  run with such logouts only, a provider that is logged out stays so until the next login.  The runs
  are watched by a book of the providers that are logged out.
-/

set_option autoImplicit false

namespace WorkWithMe.Server.Login

open Credentials Rust

universe u

/-! ## The agent -/

/-- `CredentialStatus`, as far as it is looked at. -/
inductive CredentialStatus where
  | missing
  | oauthExpired
  | present
  deriving DecidableEq

/-- What the agent says of the credentials in its auth file. -/
structure Agent (Cred : Type u) where
  /-- Whether the credential has expired at some time. -/
  expired : Cred → ℤ → Bool
  /-- The token of a credential that can be used. -/
  token : Cred → ℤ → Option String
  /-- `resolve_api_key`, for what the file has for a provider. -/
  resolve : Option Cred → String → ℤ → Option String
  /-- What has expired stays so. -/
  expired_mono : ∀ c t t', t ≤ t' → expired c t = true → expired c t' = true
  /-- What has expired cannot be used. -/
  token_of_expired : ∀ c t, expired c t = true → token c t = none

/-- `credential_status`. -/
def Agent.credentialStatus {Cred : Type u} (agent : Agent Cred) (entry : Option Cred) (t : ℤ) :
    CredentialStatus :=
  match entry with
  | none => .missing
  | some c => if agent.expired c t = true then .oauthExpired else .present

/-- `DeviceFlowPollResult`. -/
inductive DeviceFlowPollResult (Cred : Type u) where
  | success (credential : Cred)
  | pending
  | slowDown
  | expired
  | accessDenied
  | error (err : String)

/-- A login that has been started in the browser. -/
structure Started where
  provider : String
  url : String
  verifier : String
  instructions : Json

/-- A login that has been started on a device. -/
structure Device where
  verificationUri : String
  verificationUriComplete : Option String
  deviceCode : String
  userCode : String

/-! ## The requests -/

/-- `PiOAuthPendingKind`. -/
inductive PendingKind where
  | oauth
  | deviceFlow

/-- `PiOAuthPending`. -/
structure Pending where
  provider : String
  kind : PendingKind
  verifier : String
  deviceCode : Option String

/-- `TokenResponse`. -/
structure TokenResponse where
  accessToken : String
  refreshToken : Option String
  expiresIn : Option ℤ

/-- How the exchange of a code for a token fails. -/
inductive ExchangeFault where
  | send (e : String)
  | json (e : String)

/-- The places where credentials are, the logins that are pending, and the time. -/
structure Stores (Cred : Type u) where
  /-- The auth file of the agent. -/
  auth : String → Option Cred
  keychain : Keychain
  pending : String → Option Pending
  now : ℤ

/-- A request, as far as it concerns credentials. -/
inductive Request where
  | login (provider : String)
  | completeLogin (pendingId : String) (codeInput : Option String)
  | callback (error code state : Option String)
  | logout (provider userId : String)

/-- What the environment answers during a request, and how long it has been since the last one. -/
structure Env (Cred : Type u) where
  wait : ℕ
  faults : Faults
  /-- The id of a pending login. -/
  pendingId : String
  startDevice : Except String Device
  startOauth : Except String Started
  /-- The text of an error of the agent. -/
  authError : String → String
  /-- The auth file cannot be loaded. -/
  load : Option String
  /-- The auth file cannot be saved. -/
  save : Option String
  complete : Except String Cred
  poll : DeviceFlowPollResult Cred
  exchange : Except ExchangeFault TokenResponse

/-- What a request is answered. -/
structure Answer where
  status : ℕ
  body : Json

/-- The answer that something has failed. -/
def failed (status : ℕ) (error : String) : Answer :=
  ⟨status, .obj [("success", .bool false), ("error", .str error)]⟩

/-- The answer is that it has succeeded. -/
def Answer.success (a : Answer) : Bool :=
  match a.body.get "success" with
  | some (.bool b) => b
  | _ => false

/-- The providers that `login` starts in the browser. -/
def oauthProviders : List String :=
  ["anthropic", "openai-codex", "google-gemini-cli", "google-antigravity", "github-copilot",
    "copilot", "gitlab", "gitlab-duo"]

/-- The providers that `login` supports. -/
def loginProviders : List String := "kimi-for-coding" :: oauthProviders

/-- The ids of `pi_oauth_provider_summaries`. -/
def summaries : List String :=
  ["anthropic", "openai-codex", "google-gemini-cli", "google-antigravity", "kimi-for-coding",
    "github-copilot", "gitlab"]

/-- The ids that `get_provider_config` knows. -/
def configured : List String := ["google", "github", "microsoft", "slack", "stripe", "openai"]

section Handlers

variable {Cred : Type u} (serde : Serde) (e : Env Cred) (s : Stores Cred)

/-- `login`. -/
def login (provider : String) : Stores Cred × Answer :=
  if provider = "kimi-for-coding" then
    match e.startDevice with
    | .ok device =>
      let pending : Pending := ⟨provider, .deviceFlow, "", some device.deviceCode⟩
      ({ s with pending := Function.update s.pending e.pendingId (some pending) },
        ⟨200, .obj [("success", .bool true), ("provider", .str provider),
          ("pendingId", .str e.pendingId), ("kind", .str "device"),
          ("url", .str (device.verificationUriComplete.getD device.verificationUri)),
          ("instructions", .str ("If prompted, enter this code: " ++ device.userCode ++
            ". After approving access in the browser, click Complete setup.")),
          ("message", .str "Open the link below and approve access to continue.")]⟩)
    | .error err => (s, failed 400 err)
  else
    let oauthResult := if provider ∈ oauthProviders then e.startOauth
      else .error (e.authError ("Login not supported for " ++ provider))
    match oauthResult with
    | .ok started =>
      let pending : Pending := ⟨started.provider, .oauth, started.verifier, none⟩
      ({ s with pending := Function.update s.pending e.pendingId (some pending) },
        ⟨200, .obj [("success", .bool true), ("provider", .str started.provider),
          ("pendingId", .str e.pendingId), ("kind", .str "oauth"), ("url", .str started.url),
          ("instructions", started.instructions),
          ("message", .str ("Open the link below, then paste the callback URL or authorization " ++
            "code to continue."))]⟩)
    | .error err => (s, failed 400 err)

/-- What `complete_login` gets from the provider: a credential, or an answer that is no
credential. -/
def credentialResult (pending : Pending) (codeInput : Option String) :
    Except Answer (Except String Cred) :=
  match pending.kind with
  | .oauth =>
    if trim (codeInput.getD "") = "" then
      .error (failed 400 "Paste the callback URL or authorization code to continue.")
    else if pending.provider ∈ oauthProviders then .ok e.complete
    else .ok (.error ("Login completion not supported for " ++ pending.provider))
  | .deviceFlow =>
    match pending.deviceCode with
    | none => .error (failed 500 "Device flow is missing a device code.")
    | some _ => .ok (match e.poll with
      | .success credential => .ok credential
      | .pending => .error
        "Authorization is still pending. Approve access in the browser, then try again."
      | .slowDown => .error
        "Authorization server asked to slow down. Wait a few seconds and try again."
      | .expired => .error "Device code expired. Start setup again."
      | .accessDenied => .error "Authorization was denied."
      | .error err => .error err)

/-- `complete_login`. -/
def completeLogin (pendingId : String) (codeInput : Option String) : Stores Cred × Answer :=
  match s.pending pendingId with
  | none => (s, failed 404 "Login session not found or expired.")
  | some pending =>
    match e.load with
    | some err => (s, failed 500 err)
    | none =>
      match credentialResult e pending codeInput with
      | .error answer => (s, answer)
      | .ok (.error err) =>
        let status :=
          if "pending".toList <:+: err.toList ∨ "slow down".toList <:+: err.toList then 409
          else 400
        (s, failed status err)
      | .ok (.ok credential) =>
        match e.save with
        | some err => (s, failed 500 err)
        | none =>
          ({ s with
              auth := Function.update s.auth pending.provider (some credential)
              pending := Function.update s.pending pendingId none },
            ⟨200, .obj [("success", .bool true), ("provider", .str pending.provider)]⟩)

/-- `validate_and_remove_auth_state`: the provider of the state. -/
def validateAndRemoveAuthState (state : String) : Keychain × Except String String :=
  let key := "oauth_state_" ++ state
  match s.keychain.get e.faults key with
  | .error err => (s.keychain, .error err)
  | .ok none => (s.keychain, .error "State not found or invalid")
  | .ok (some json) =>
    match serde.readState json with
    | .error err => (s.keychain, .error ("Failed to parse auth state: " ++ err))
    | .ok authState =>
      match s.keychain.delete e.faults key with
      | .ok (_, k) =>
        (k, if authState.isExpired s.now = true then
            .error "State has expired. Please restart the login process."
          else .ok authState.provider)
      | .error err =>
        (s.keychain, if authState.isExpired s.now = true then
            .error "State has expired. Please restart the login process."
          else .error err)

/-- `exchange_code_for_token`. -/
def exchangeCodeForToken (k : Keychain) (provider : String) :
    Except String (OAuthCredentials × Keychain) :=
  if provider ∉ configured then
    .error ("OAuth provider '" ++ provider ++ "' configuration not found during token exchange")
  else
    match e.exchange with
    | .error (.send err) => .error ("Failed to exchange authorization code with " ++ provider ++
        " (" ++ err ++ "). Check your internet connection and credentials.")
    | .error (.json err) => .error ("Failed to parse token response from " ++ provider ++
        ". The OAuth provider returned an unexpected response format: " ++ err)
    | .ok response =>
      let credentials : OAuthCredentials :=
        ⟨provider, response.accessToken, response.refreshToken,
          response.expiresIn.map fun secs ↦ s.now + secs, none⟩
      match storeCredentials serde e.faults k credentials with
      | .error err => .error err
      | .ok k => .ok (credentials, k)

/-- A text that may be missing. -/
def optStr : Option String → Json
  | some s => .str s
  | none => .null

/-- `callback`. -/
def callback (error code state : Option String) : Stores Cred × Answer :=
  match error, code, state with
  | some err, _, _ => (s, failed 400 ("OAuth error: " ++ err))
  | none, none, _ => (s, failed 400 "Missing authorization code")
  | none, some _, none => (s, failed 400 "Missing state parameter")
  | none, some _, some state =>
    match validateAndRemoveAuthState serde e s state with
    | (k, .error err) => ({ s with keychain := k }, failed 400 ("State validation failed: " ++ err))
    | (k, .ok provider) =>
      match exchangeCodeForToken serde e s k provider with
      | .ok (creds, k) =>
        ({ s with keychain := k },
          ⟨200, .obj [("success", .bool true), ("credentials", .obj [
            ("provider", .str creds.provider), ("access_token", .str creds.accessToken),
            ("refresh_token", optStr creds.refreshToken),
            ("expires_at", (creds.expiresAt.map fun t ↦ Json.num (toString t)).getD .null)])]⟩)
      | .error err =>
        ({ s with keychain := k }, failed 500 ("Token exchange failed: " ++ err))

/-- `logout`. -/
def logout (provider userId : String) : Stores Cred × Answer :=
  match deleteCredentials e.faults s.keychain provider userId with
  | .ok k =>
    ({ s with keychain := k },
      ⟨200, .obj [("success", .bool true), ("message", .str ("Logged out from " ++ provider))]⟩)
  | .error err => (s, failed 200 err)

/-- The time goes on. -/
def Stores.later : Stores Cred := { s with now := s.now + e.wait }

/-- What a request does. -/
def handle : Request → Stores Cred × Answer
  | .login provider => login e (s.later e) provider
  | .completeLogin pendingId codeInput => completeLogin e (s.later e) pendingId codeInput
  | .callback error code state => callback serde e (s.later e) error code state
  | .logout provider userId => logout e (s.later e) provider userId

end Handlers

/-! ## Logged out -/

section LoggedOut

variable {Cred : Type u} (agent : Agent Cred) (serde : Serde) (toLowercase : String → String)
variable (s : Stores Cred) (p : String)

/-- `status` lists the provider. -/
def Listed (t : ℤ) : Prop :=
  p ∈ summaries ∧ agent.credentialStatus (s.auth p) t ≠ .missing ∧
    agent.credentialStatus (s.auth p) t ≠ .oauthExpired

/-- The sources of a credential: what a login has stored, and whatever the environment has. -/
def Stores.resolution (f : Faults) (env : String → Option String) (t : ℤ) : Resolution where
  serde := serde
  faults := f
  keychain := s.keychain
  pi := some fun p ↦ agent.resolve (s.auth p) p t
  env := env

/-- The account in which a login by `callback` leaves its credentials. -/
def slot (p : String) : String := formatAccount (credentialsKey p "default")

/-- The token of the entry of the keychain. -/
def slotToken (k : Keychain) (p : String) : Option String :=
  match k (slot p) with
  | none => none
  | some json =>
    match serde.readCredentials json with
    | .error _ => none
    | .ok creds => if trim creds.accessToken = "" then none else some (trim creds.accessToken)

/-- The token of a credential that a login has stored. -/
def StoredToken (t : ℤ) (token : String) : Prop :=
  slotToken serde s.keychain p = some token ∨ ∃ c, s.auth p = some c ∧ agent.token c t = some token

/-- A credential that a login has stored is used. -/
def Used (t : ℤ) : Prop :=
  ∃ f env token, (s.resolution agent serde f env t).resolveSessionAuthToken toLowercase p =
    some token ∧ StoredToken agent serde s p t token

/-- **The provider is logged out**, now and as long as nothing is done. -/
structure LoggedOut : Prop where
  /-- `status` does not list it. -/
  notListed : ∀ t, s.now ≤ t → ¬ Listed agent s p t
  /-- Nothing that a login has stored is used. -/
  notUsed : ∀ t, s.now ≤ t → ¬ Used agent serde toLowercase s p t

/-- The auth file has nothing for the provider that has not expired. -/
def Inactive (t : ℤ) : Prop := ∀ c ∈ s.auth p, agent.expired c t = true

/-- Nothing is stored for the provider that can be used. -/
structure Clear : Prop where
  /-- In the auth file. -/
  auth : Inactive agent s p s.now
  /-- In the keychain. -/
  keychain : slotToken serde s.keychain p = none

variable {agent serde toLowercase s p}

theorem Inactive.mono {t t' : ℤ} (h : Inactive agent s p t) (ht : t ≤ t') : Inactive agent s p t' :=
  fun c hc ↦ agent.expired_mono c t t' ht (h c hc)

/-- What is listed has not expired. -/
theorem listed_iff {t : ℤ} : Listed agent s p t ↔ p ∈ summaries ∧ ¬ Inactive agent s p t := by
  rw [Listed, Inactive]
  refine and_congr_right fun _ ↦ ?_
  cases s.auth p with
  | none => simp [Agent.credentialStatus]
  | some c => cases hc : agent.expired c t <;> simp [Agent.credentialStatus, hc]

/-- Where nothing is stored, no token is. -/
theorem Clear.not_storedToken (h : Clear agent serde s p) {t : ℤ} (ht : s.now ≤ t)
    (token : String) : ¬ StoredToken agent serde s p t token := by
  rintro (hslot | ⟨c, hc, htoken⟩)
  · rw [h.keychain] at hslot
    cases hslot
  · rw [agent.token_of_expired c t (h.auth.mono ht c hc)] at htoken
    cases htoken

/-- **Where nothing is stored for a provider, it is logged out.** -/
theorem Clear.loggedOut (h : Clear agent serde s p) : LoggedOut agent serde toLowercase s p where
  notListed _ ht hlisted := (listed_iff.mp hlisted).2 (h.auth.mono ht)
  notUsed _ ht := fun ⟨_, _, token, _, hstored⟩ ↦ h.not_storedToken ht token hstored

/-- The OAuth entry that a resolution reads is the one in the slot. -/
theorem providerOauthAccessToken_eq_slotToken (r : Resolution) (p : String) :
    r.providerOauthAccessToken p =
      if (r.faults.get (slot p)).isSome then none else slotToken r.serde r.keychain p := by
  rw [Resolution.providerOauthAccessToken, getCredentials, if_pos rfl, Keychain.get, ← slot,
    slotToken]
  cases r.faults.get (slot p) with
  | some fault => cases fault <;> rfl
  | none =>
    rw [Option.isSome_none, if_neg Bool.false_ne_true]
    dsimp only
    cases r.keychain (slot p) with
    | none => rfl
    | some json =>
      dsimp only
      cases r.serde.readCredentials json with
      | error err => rfl
      | ok creds =>
        dsimp only
        split <;> simp_all

/-- **A provider that can be listed is logged out only where nothing is stored for it.** -/
theorem loggedOut_iff_clear (hp : p ∈ summaries) (hlower : toLowercase p = p) :
    LoggedOut agent serde toLowercase s p ↔ Clear agent serde s p := by
  refine ⟨fun h ↦ ⟨?_, ?_⟩, Clear.loggedOut⟩
  · by_contra hactive
    exact h.notListed s.now (Int.le_refl _) (listed_iff.mpr ⟨hp, hactive⟩)
  · cases hslot : slotToken serde s.keychain p with
    | none => rfl
    | some token =>
      refine absurd ⟨.none, fun _ ↦ none, token, ?_, .inl hslot⟩ (h.notUsed s.now (Int.le_refl _))
      have htoken := providerOauthAccessToken_eq_slotToken
        (s.resolution agent serde .none (fun _ ↦ none) s.now) p
      rw [Resolution.resolveSessionAuthToken_eq, hlower, htoken]
      exact congrArg (fun token ↦ (Option.or token _).or _) hslot

end LoggedOut

/-! ## What a request leaves alone -/

section Frame

variable {Cred : Type u} {serde : Serde} {e : Env Cred} {s s' : Stores Cred} {p : String}

/-- What is stored for the provider is the same, or has been deleted from the keychain. -/
structure Keeps (p : String) (s s' : Stores Cred) : Prop where
  auth : s'.auth p = s.auth p
  keychain : s'.keychain (slot p) = s.keychain (slot p) ∨ s'.keychain (slot p) = none
  now : s'.now = s.now

theorem Keeps.refl (p : String) (s : Stores Cred) : Keeps p s s := ⟨rfl, .inl rfl, rfl⟩

/-- The provider that a request has logged in, by the answer. -/
def signedIn (r : Request) (a : Answer) : Option String :=
  match r with
  | .completeLogin _ _ =>
    if a.success then (a.body.get "provider").bind Json.asStr else none
  | .callback _ _ _ =>
    if a.success then
      ((a.body.get "credentials").bind fun creds ↦ creds.get "provider").bind Json.asStr
    else none
  | _ => none

theorem login_keeps (provider : String) : Keeps p s (login e s provider).1 := by
  rw [login]
  split
  · split
    · exact ⟨rfl, .inl rfl, rfl⟩
    · exact .refl p s
  · dsimp only
    split
    · exact ⟨rfl, .inl rfl, rfl⟩
    · exact .refl p s

/-- **A login that is completed** concerns the provider that it has been started for. -/
theorem completeLogin_keeps {pendingId : String} {codeInput : Option String}
    (h : signedIn (.completeLogin pendingId codeInput) (completeLogin e s pendingId codeInput).2 ≠
      some p) : Keeps p s (completeLogin e s pendingId codeInput).1 := by
  revert h
  rw [completeLogin]
  cases s.pending pendingId with
  | none => exact fun _ ↦ .refl p s
  | some pending =>
    cases e.load with
    | some err => exact fun _ ↦ .refl p s
    | none =>
      dsimp only
      cases credentialResult e pending codeInput with
      | error answer => exact fun _ ↦ .refl p s
      | ok result =>
        cases result with
        | error err => exact fun _ ↦ .refl p s
        | ok credential =>
          cases e.save with
          | some err => exact fun _ ↦ .refl p s
          | none =>
            intro h
            have hp : p ≠ pending.provider := fun hp ↦ h (hp ▸ rfl)
            exact ⟨Function.update_of_ne hp .., .inl rfl, rfl⟩

/-- Deleting deletes. -/
theorem delete_keychain {f : Faults} {k k' : Keychain} {slug : String} {found : Bool}
    (h : k.delete f slug = .ok (found, k')) (account : String) :
    k' account = k account ∨ k' account = none := by
  rw [Keychain.delete] at h
  split at h
  · obtain ⟨-, rfl⟩ := Prod.mk.inj (Except.ok.inj h)
    by_cases hslug : account = formatAccount slug
    · exact .inr (hslug ▸ Function.update_self ..)
    · exact .inl (Function.update_of_ne hslug ..)
  · cases h
  · cases h

/-- The keychain is the same, or something has been deleted from it. -/
theorem validateAndRemoveAuthState_keychain (state account : String) :
    (validateAndRemoveAuthState serde e s state).1 account = s.keychain account ∨
      (validateAndRemoveAuthState serde e s state).1 account = none := by
  rw [validateAndRemoveAuthState]
  split
  · exact .inl rfl
  · exact .inl rfl
  · split
    · exact .inl rfl
    · split
      · rename_i hdelete
        exact delete_keychain hdelete account
      · exact .inl rfl

/-- The credentials of one provider are not in the slot of another. -/
theorem slot_ne {q : String} (h : p ≠ q) : slot p ≠ formatAccount (credentialsKey q "default") := by
  rw [slot, Ne, formatAccount_inj, credentialsKey, credentialsKey]
  intro heq
  have hlist := congrArg String.toList heq
  simp only [String.toList_append, List.append_assoc, List.append_cancel_left_eq,
    List.append_cancel_right_eq, String.toList_inj] at hlist
  exact h hlist

/-- What is exchanged is stored in the slot of its provider. -/
theorem exchangeCodeForToken_keychain {k k' : Keychain} {provider : String}
    {creds : OAuthCredentials} (h : exchangeCodeForToken serde e s k provider = .ok (creds, k')) :
    creds.provider = provider ∧ (p ≠ provider → k' (slot p) = k (slot p)) := by
  rw [exchangeCodeForToken] at h
  split at h
  · cases h
  split at h
  · cases h
  · cases h
  dsimp only at h
  split at h
  · cases h
  rename_i hstore
  obtain ⟨rfl, rfl⟩ := Prod.mk.inj (Except.ok.inj h)
  exact ⟨rfl, fun hp ↦ storeCredentials_keychain hstore (slot_ne hp)⟩

/-- The answer of a callback that has stored credentials names their provider. -/
theorem callback_keeps {error code state : Option String}
    (h : signedIn (.callback error code state) (callback serde e s error code state).2 ≠ some p) :
    Keeps p s (callback serde e s error code state).1 := by
  revert h
  rw [callback.eq_def]
  split
  · exact fun _ ↦ .refl p s
  · exact fun _ ↦ .refl p s
  · exact fun _ ↦ .refl p s
  · rename_i state
    generalize hremove : validateAndRemoveAuthState serde e s state = removed
    have hremoved : removed.1 (slot p) = s.keychain (slot p) ∨ removed.1 (slot p) = none :=
      hremove ▸ validateAndRemoveAuthState_keychain state (slot p)
    obtain ⟨k, err | provider⟩ := removed
    · exact fun _ ↦ ⟨rfl, hremoved, rfl⟩
    · dsimp only
      cases hexchange : exchangeCodeForToken serde e s k provider with
      | error err => exact fun _ ↦ ⟨rfl, hremoved, rfl⟩
      | ok result =>
        obtain ⟨creds, k'⟩ := result
        obtain ⟨hprovider, hslot⟩ := exchangeCodeForToken_keychain (p := p) hexchange
        intro h
        have hp : p ≠ provider := fun hp ↦ h (hp ▸ hprovider ▸ rfl)
        exact ⟨rfl, hremoved.imp (hslot hp).trans (hslot hp).trans, rfl⟩

theorem logout_keeps (provider userId : String) : Keeps p s (logout e s provider userId).1 := by
  rw [logout, deleteCredentials]
  split
  · rename_i hdelete
    split at hdelete
    · cases hdelete
    · rename_i hdeleted
      obtain rfl := Except.ok.inj hdelete
      exact ⟨rfl, delete_keychain hdeleted (slot p), rfl⟩
  · exact .refl p s

/-- **What a request leaves alone**: what is stored for a provider that it does not log in. -/
theorem handle_keeps {r : Request} (h : signedIn r (handle serde e s r).2 ≠ some p) :
    Keeps p (s.later e) (handle serde e s r).1 := by
  cases r with
  | login provider => exact login_keeps provider
  | completeLogin pendingId codeInput => exact completeLogin_keeps h
  | callback error code state => exact callback_keeps h
  | logout provider userId => exact logout_keeps provider userId

end Frame

/-! ## Logout -/

section Logout

variable {Cred : Type u} {agent : Agent Cred} {serde : Serde} {toLowercase : String → String}
variable {e : Env Cred} {s : Stores Cred} {p q userId : String}

/-- What a logout leaves. -/
theorem logout_eq (h : e.faults.delete (formatAccount (credentialsKey p userId)) = none) :
    logout e s p userId =
      ({ s with
          keychain := Function.update s.keychain (formatAccount (credentialsKey p userId)) none },
        ⟨200, .obj [("success", .bool true), ("message", .str ("Logged out from " ++ p))]⟩) := by
  rw [logout, deleteCredentials, Keychain.delete, h]

/-- A logout that the keychain does not let through. -/
theorem logout_success (h : (logout e s p userId).2.success = true) :
    e.faults.delete (formatAccount (credentialsKey p userId)) = none := by
  rw [logout, deleteCredentials, Keychain.delete] at h
  cases hfault : e.faults.delete (formatAccount (credentialsKey p userId)) with
  | none => rfl
  | some fault =>
    rw [hfault] at h
    cases fault <;> cases h

/-- **After which logouts nothing is stored**: the auth file has nothing that has not expired, and
the keychain has nothing but under the user that is logged out. -/
theorem clear_logout_iff (h : e.faults.delete (formatAccount (credentialsKey p userId)) = none) :
    Clear agent serde (logout e s p userId).1 p ↔
      Inactive agent s p s.now ∧ (userId = "default" ∨ slotToken serde s.keychain p = none) := by
  rw [logout_eq h]
  have hauth : Inactive agent s p s.now ↔ Inactive agent { s with
      keychain := Function.update s.keychain (formatAccount (credentialsKey p userId)) none } p
      s.now := Iff.rfl
  rw [hauth]
  refine ⟨fun hclear ↦ ⟨hclear.auth, ?_⟩, fun hclear ↦ ⟨hclear.1, ?_⟩⟩
  · by_contra hslot
    obtain ⟨huser, htoken⟩ := not_or.mp hslot
    refine htoken ?_
    have hne : slot p ≠ formatAccount (credentialsKey p userId) := by
      rw [slot, Ne, formatAccount_inj, credentialsKey_inj]
      exact fun hdefault ↦ huser hdefault.symm
    have hkeychain := hclear.keychain
    rw [slotToken] at hkeychain ⊢
    dsimp only at hkeychain
    rwa [Function.update_of_ne hne] at hkeychain
  · obtain rfl | htoken := hclear.2
    · rw [slotToken]
      dsimp only
      rw [slot, Function.update_self]
    · rw [slotToken] at htoken ⊢
      dsimp only
      by_cases hslot : slot p = formatAccount (credentialsKey p userId)
      · rw [hslot, Function.update_self]
      · rwa [Function.update_of_ne hslot]

/-- **After which logouts a provider is logged out.** -/
theorem loggedOut_logout_iff (hp : p ∈ summaries) (hlower : toLowercase p = p)
    (h : e.faults.delete (formatAccount (credentialsKey p userId)) = none) :
    LoggedOut agent serde toLowercase (logout e s p userId).1 p ↔
      Inactive agent s p s.now ∧ (userId = "default" ∨ slotToken serde s.keychain p = none) := by
  rw [loggedOut_iff_clear hp hlower, clear_logout_iff h]

/-- The key of the slot of a provider is the key of no other provider, whatever the user. -/
theorem eq_of_credentialsKey_eq (hp : '_' ∉ p.toList)
    (h : credentialsKey q userId = credentialsKey p "default") : q = p := by
  obtain ⟨hqp, -⟩ | ⟨v, -, hdefault⟩ := (credentialsKey_eq_iff hp).mp h.symm
  · exact hqp.symm
  · have hmem : '_' ∈ "default".toList := by
      rw [hdefault]
      simp
    exact absurd hmem (by decide)

theorem underscore_notMem_loginProviders : ∀ p ∈ loginProviders, '_' ∉ p.toList := by decide

/-- The key of an API key of a provider is not one of an OAuth entry. -/
theorem apiKeySlug_ne (hp : p ∈ loginProviders) : apiKeySlug p ≠ credentialsKey q userId := by
  have hprefix : ∀ p ∈ loginProviders, ¬ "oauth_token_".toList <+: (apiKeySlug p).toList := by
    decide
  intro heq
  refine hprefix p hp ?_
  rw [heq, credentialsKey, String.append_assoc, String.append_assoc, String.toList_append]
  exact List.prefix_append ..

end Logout

/-! ## Runs -/

/-- A request, and what the environment answers during it. -/
structure Event (Cred : Type u) where
  env : Env Cred
  request : Request

/-- The stores, and the providers that have been logged out, and not in again. -/
structure Watched (Cred : Type u) where
  stores : Stores Cred
  out : List String

/-- The provider that a request has logged out, by the answer. -/
def signedOut (r : Request) (a : Answer) : Option String :=
  match r with
  | .logout provider _ => if a.success then some provider else none
  | _ => none

/-- Keep the book of the providers that are logged out. -/
def watch (r : Request) (a : Answer) (out : List String) : List String :=
  match signedOut r a, signedIn r a with
  | some p, _ => p :: out
  | none, some p => out.filter fun q ↦ q ≠ p
  | none, none => out

section Run

variable {Cred : Type u} (agent : Agent Cred) (serde : Serde) (toLowercase : String → String)

/-- One request after the other. -/
def step (w : Watched Cred) (a : Event Cred) : Option (Watched Cred) :=
  let (stores, answer) := handle serde a.env w.stores a.request
  some ⟨stores, watch a.request answer w.out⟩

/-- What is known of a provider is the same. -/
structure SameFor (p : String) (s s' : Stores Cred) : Prop where
  listed : ∀ t, Listed agent s' p t ↔ Listed agent s p t
  resolved : ∀ f env t, (s'.resolution agent serde f env t).resolveSessionAuthToken toLowercase p =
    (s.resolution agent serde f env t).resolveSessionAuthToken toLowercase p

/-- A logout leaves the logins of the other providers alone. -/
def Spares (w : Watched Cred) (a : Event Cred) : Prop :=
  ∀ q userId, a.request = .logout q userId → ∀ p ∈ loginProviders, p ≠ q →
    SameFor agent serde toLowercase p w.stores (handle serde a.env w.stores a.request).1

/-- **What a logout has to find**, where the keychain lets it through: the auth file has nothing for
the provider, or something that has expired, and the keychain has nothing but under the user that is
logged out. -/
def Reaches (w : Watched Cred) (a : Event Cred) : Prop :=
  ∀ p userId, a.request = .logout p userId → p ∈ loginProviders →
    a.env.faults.delete (formatAccount (credentialsKey p userId)) = none →
      Inactive agent w.stores p (w.stores.now + a.env.wait) ∧
        (userId = "default" ∨ slotToken serde w.stores.keychain p = none)

variable {agent serde toLowercase} {w v : Watched Cred} {a : Event Cred}

/-- The invariant: for what is logged out, nothing is stored. -/
def AllClear (agent : Agent Cred) (serde : Serde) (w : Watched Cred) : Prop :=
  ∀ p ∈ w.out, p ∈ loginProviders → Clear agent serde w.stores p

theorem Clear.keeps {s s' : Stores Cred} {p : String} {e : Env Cred}
    (h : Clear agent serde s p) (hkeeps : Keeps p (s.later e) s') : Clear agent serde s' p where
  auth c hc := by
    have hnow : s.now ≤ s'.now := by
      rw [hkeeps.now, Stores.later]
      exact Int.le_add_of_nonneg_right (Int.natCast_nonneg _)
    rw [Option.mem_def, hkeeps.auth] at hc
    exact h.auth.mono hnow c hc
  keychain := by
    obtain hsame | hnone := hkeeps.keychain
    · rw [slotToken, hsame]
      exact h.keychain
    · rw [slotToken, hnone]

/-- Who is in the book after a request. -/
theorem mem_watch {r : Request} {answer : Answer} {out : List String} {p : String}
    (h : p ∈ watch r answer out) :
    signedOut r answer = some p ∨ p ∈ out ∧ signedIn r answer ≠ some p := by
  rw [watch] at h
  split at h
  · rename_i hout
    obtain rfl | h := List.mem_cons.mp h
    · exact .inl hout
    · refine .inr ⟨h, ?_⟩
      cases r <;> simp_all [signedOut, signedIn]
  · rename_i hin
    obtain ⟨hmem, hne⟩ := List.mem_filter.mp h
    refine .inr ⟨hmem, ?_⟩
    rw [hin]
    rintro hp
    exact of_decide_eq_true hne (Option.some.inj hp).symm
  · rename_i hin
    exact .inr ⟨h, hin ▸ (Option.some_ne_none p).symm⟩

/-- Only a logout that succeeds logs out. -/
theorem exists_of_signedOut {e : Env Cred} {s : Stores Cred} {r : Request} {p : String}
    (h : signedOut r (handle serde e s r).2 = some p) : ∃ userId, r = .logout p userId ∧
      e.faults.delete (formatAccount (credentialsKey p userId)) = none := by
  cases r with
  | logout q userId =>
    rw [signedOut] at h
    split at h
    · rename_i hsuccess
      obtain rfl := Option.some.inj h
      exact ⟨userId, rfl, logout_success hsuccess⟩
    · cases h
  | login provider => cases h
  | completeLogin pendingId codeInput => cases h
  | callback error code state => cases h

/-- **A step that is allowed keeps the invariant.** -/
theorem AllClear.step (h : AllClear agent serde w) (hreaches : Reaches agent serde w a)
    (hstep : Login.step serde w a = some v) : AllClear agent serde v := by
  obtain rfl := Option.some.inj hstep
  intro p hp hlogin
  obtain hout | ⟨hmem, hin⟩ := mem_watch hp
  · obtain ⟨userId, hrequest, hdelete⟩ := exists_of_signedOut hout
    have hfound := hreaches p userId hrequest hlogin hdelete
    dsimp only
    rw [hrequest]
    exact (clear_logout_iff hdelete).mpr hfound
  · exact (h p hmem hlogin).keeps (handle_keeps hin)

/-- **A logout leaves the logins of the other providers alone.** -/
theorem spares (hlower : ∀ p ∈ loginProviders, toLowercase p = p) (w : Watched Cred)
    (a : Event Cred) : Spares agent serde toLowercase w a := by
  intro q userId hrequest p hp hne
  have hslot : formatAccount (credentialsKey p "default") ≠
      formatAccount (credentialsKey q userId) := by
    rw [Ne, formatAccount_inj]
    exact fun heq ↦
      hne (eq_of_credentialsKey_eq (underscore_notMem_loginProviders p hp) heq.symm).symm
  have hkey : formatAccount (apiKeySlug p) ≠ formatAccount (credentialsKey q userId) := by
    rw [Ne, formatAccount_inj]
    exact apiKeySlug_ne hp
  rw [hrequest]
  show SameFor agent serde toLowercase p w.stores (logout a.env (w.stores.later a.env) q userId).1
  cases hdelete : a.env.faults.delete (formatAccount (credentialsKey q userId)) with
  | some fault =>
    have hsame : (logout a.env (w.stores.later a.env) q userId).1 = w.stores.later a.env := by
      rw [logout, deleteCredentials, Keychain.delete, hdelete]
      cases fault <;> rfl
    rw [hsame]
    exact ⟨fun t ↦ Iff.rfl, fun f env t ↦ rfl⟩
  | none =>
    rw [logout_eq hdelete]
    refine ⟨fun t ↦ Iff.rfl, fun f env t ↦ ?_⟩
    refine Resolution.resolveSessionAuthToken_congr
      (r := w.stores.resolution agent serde f env t) ?_ ?_
    · rw [hlower p hp]
      exact Function.update_of_ne hslot ..
    · rw [hlower p hp, hlower p hp]
      exact Function.update_of_ne hkey ..

variable (agent serde toLowercase) in
/-- **Login and logout are inverse**, all along a run: whatever is logged out stays so until the
next login, and no logout undoes the login of another provider. -/
def Inverse (s : Stores Cred) (as : List (Event Cred)) : Prop :=
  ∀ pre post w, as = pre ++ post → Machine.exec (step serde) ⟨s, []⟩ pre = some w →
    (∀ p ∈ w.out, p ∈ loginProviders → LoggedOut agent serde toLowercase w.stores p) ∧
      ∀ a ∈ post.head?, Spares agent serde toLowercase w a

end Run

/-! ## An example -/

/-- An agent whose credentials do not expire. -/
def exampleAgent : Agent Unit where
  expired _ _ := false
  token _ _ := some "sk-ant-oat"
  resolve entry _ _ := entry.map fun _ ↦ "sk-ant-oat"
  expired_mono _ _ _ _ h := h
  token_of_expired _ _ h := absurd h Bool.false_ne_true

/-- Nothing is in the keychain that could be read. -/
def exampleSerde : Serde :=
  ⟨fun _ ↦ .error "EOF while parsing", fun _ ↦ .ok "{}", fun _ ↦ .error "EOF while parsing"⟩

/-- Nothing is stored, and a login is pending. -/
def exampleStores : Stores Unit where
  auth _ := none
  keychain _ := none
  pending pendingId := if pendingId = "1" then some ⟨"anthropic", .oauth, "v", none⟩ else none
  now := 0

/-- Everything succeeds. -/
def exampleEnv : Env Unit where
  wait := 1
  faults := .none
  pendingId := "2"
  startDevice := .error "timeout"
  startOauth := .error "timeout"
  authError := id
  load := none
  save := none
  complete := .ok ()
  poll := .pending
  exchange := .error (.send "timeout")

/-- Log in. -/
def exampleLogin : Event Unit := ⟨exampleEnv, .completeLogin "1" (some "code")⟩

/-- Log out. -/
def exampleLogout : Event Unit := ⟨exampleEnv, .logout "anthropic" ""⟩

end WorkWithMe.Server.Login
