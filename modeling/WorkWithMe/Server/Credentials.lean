import WorkWithMe.Lib.Rust
import Mathlib.Logic.Function.Basic

/-!
# Credentials

Where the server finds what it signs in to a provider with: the system keychain
(`server/keychain.rs`), in which the callback of an OAuth login leaves its credentials
(`server/oauth.rs`) and the settings leave API keys; the auth file of the agent; and the
environment.  `resolve_session_auth_token` of `server/mod.rs` asks them in turn.

* `Keychain` is what the keychain holds, and `Faults` how its operations fail at some time.
* `resolveSessionAuthToken` is the resolution, and `Resolution` the sources that it finds.
* **`sound_iff`** says exactly when what is resolved can be used: nobody asks whether an OAuth entry
  has expired, nor whether an API key is blank.

`serde_json` is the parameter `Serde`, `str::to_lowercase` the parameter `toLowercase`, and the
agent's `resolve_api_key` the field `Resolution.pi`.
-/

set_option autoImplicit false

namespace WorkWithMe.Server.Credentials

open Rust

/-! ## The keychain -/

/-- What the system keychain holds for the service, by account. -/
abbrev Keychain := String → Option String

/-- How an operation fails: the entry cannot be got at, or the operation on it fails. -/
inductive Fault where
  | entry (e : String)
  | operation (e : String)

/-- How the operations on each account fail at some time, if they do. -/
structure Faults where
  get : String → Option Fault
  set : String → Option Fault
  delete : String → Option Fault

/-- Nothing fails. -/
def Faults.none : Faults := ⟨fun _ ↦ .none, fun _ ↦ .none, fun _ ↦ .none⟩

/-- `format_account`. -/
def formatAccount (slug : String) : String := "remote-mcp/" ++ slug

theorem formatAccount_inj {slug slug' : String} :
    formatAccount slug = formatAccount slug' ↔ slug = slug' := by
  rw [formatAccount, formatAccount, String.append_right_inj]

namespace Keychain

variable (f : Faults) (k : Keychain) (slug : String)

/-- `keychain::get`. -/
def get : Except String (Option String) :=
  match f.get (formatAccount slug) with
  | none => .ok (k (formatAccount slug))
  | some (.operation e) => .error ("Failed to retrieve '" ++ slug ++ "' from system keychain: " ++
      e ++ ". Ensure the keychain is unlocked and accessible.")
  | some (.entry e) => .error ("Failed to access system keychain for '" ++ slug ++ "': " ++ e ++
      ". The keychain service may be unavailable.")

/-- `keychain::set`. -/
def set (token : String) : Except String Keychain :=
  match f.set (formatAccount slug) with
  | none => .ok (Function.update k (formatAccount slug) (some token))
  | some (.operation e) => .error ("Failed to store '" ++ slug ++ "' in system keychain: " ++ e ++
      ". Ensure the keychain is unlocked.")
  | some (.entry e) => .error ("Failed to access system keychain for storage: " ++ e ++
      ". The keychain service may be unavailable.")

/-- `keychain::delete`: whether there was something to delete. -/
def delete : Except String (Bool × Keychain) :=
  match f.delete (formatAccount slug) with
  | none => .ok ((k (formatAccount slug)).isSome, Function.update k (formatAccount slug) none)
  | some (.operation e) => .error ("Failed to delete '" ++ slug ++ "' from system keychain: " ++ e)
  | some (.entry e) => .error ("Failed to access system keychain for deletion: " ++ e ++
      ". The keychain service may be unavailable.")

end Keychain

/-! ## OAuth entries -/

/-- `OAuthCredentials`. -/
structure OAuthCredentials where
  provider : String
  accessToken : String
  refreshToken : Option String
  expiresAt : Option ℤ
  userId : Option String

/-- The credentials have expired. -/
def OAuthCredentials.Expired (creds : OAuthCredentials) (now : ℤ) : Prop :=
  ∃ t ∈ creds.expiresAt, t < now

/-- `AuthState`. -/
structure AuthState where
  provider : String
  state : String
  createdAt : ℤ
  expiresAt : ℤ

/-- `is_expired`. -/
def AuthState.isExpired (s : AuthState) (now : ℤ) : Bool := decide (s.expiresAt < now)

/-- What `serde_json` makes of the texts in the keychain. -/
structure Serde where
  readCredentials : String → Except String OAuthCredentials
  writeCredentials : OAuthCredentials → Except String String
  readState : String → Except String AuthState

/-- The key of an OAuth entry. -/
def credentialsKey (provider uid : String) : String := "oauth_token_" ++ provider ++ "_" ++ uid

theorem credentialsKey_inj {p uid uid' : String} :
    credentialsKey p uid = credentialsKey p uid' ↔ uid = uid' := by
  rw [credentialsKey, credentialsKey, String.append_right_inj]

/-- **The entries that share a key** with one of a provider whose name has no underscore: none but
itself, or one of a provider whose name goes on where the user begins. -/
theorem credentialsKey_eq_iff {p q uid w : String} (hq : '_' ∉ q.toList) :
    credentialsKey q w = credentialsKey p uid ↔
      (q = p ∧ w = uid) ∨ ∃ v, p = q ++ "_" ++ v ∧ w = v ++ "_" ++ uid := by
  constructor
  · intro h
    have hlist : q.toList ++ '_' :: w.toList = p.toList ++ '_' :: uid.toList := by
      simpa [credentialsKey] using congrArg String.toList h
    obtain ⟨rest, hrest, htail⟩ | ⟨rest, hrest, htail⟩ := List.append_eq_append_iff.mp hlist
    · cases rest with
      | nil =>
        refine Or.inl ⟨String.toList_inj.mp ?_, String.toList_inj.mp ?_⟩
        · simpa using hrest.symm
        · simpa using htail
      | cons c rest =>
        obtain ⟨rfl, htail⟩ := List.cons.inj htail
        refine Or.inr ⟨String.ofList rest, String.toList_inj.mp ?_, String.toList_inj.mp ?_⟩
        · simpa using hrest
        · simpa using htail
    · cases rest with
      | nil =>
        refine Or.inl ⟨String.toList_inj.mp ?_, String.toList_inj.mp ?_⟩
        · simpa using hrest
        · simpa using htail.symm
      | cons c rest =>
        obtain ⟨rfl, -⟩ := List.cons.inj htail
        rw [hrest] at hq
        exact absurd (List.mem_append_right _ List.mem_cons_self) hq
  · rintro (⟨rfl, rfl⟩ | ⟨v, rfl, rfl⟩)
    · rfl
    · simp [credentialsKey, String.append_assoc]

/-- The providers that `store_credentials` knows. -/
def validProviders : List String := ["google", "github", "microsoft", "slack", "stripe", "openai"]

section OAuth

variable (serde : Serde) (f : Faults) (k : Keychain)

/-- `store_credentials`. -/
def storeCredentials (creds : OAuthCredentials) : Except String Keychain :=
  if creds.accessToken = "" then .error "access_token cannot be empty"
  else if creds.provider ∉ validProviders then
    .error ("Invalid provider '" ++ creds.provider ++ "'. Supported: " ++
      ", ".intercalate validProviders)
  else
    let uid := ((creds.userId.filter fun s ↦ s ≠ "").getD "default")
    match serde.writeCredentials creds with
    | .error e => .error ("Failed to serialize credentials: " ++ e)
    | .ok json => k.set f (credentialsKey creds.provider uid) json

/-- `get_credentials`. -/
def getCredentials (provider userId : String) : Except String (Option OAuthCredentials) :=
  let uid := if userId = "" then "default" else userId
  match k.get f (credentialsKey provider uid) with
  | .error e => .error e
  | .ok none => .ok none
  | .ok (some json) =>
    match serde.readCredentials json with
    | .error e => .error ("Failed to parse stored credentials: " ++ e)
    | .ok creds => .ok (some creds)

/-- `delete_credentials`. -/
def deleteCredentials (provider userId : String) : Except String Keychain :=
  match k.delete f (credentialsKey provider userId) with
  | .error e => .error e
  | .ok (_, k) => .ok k

variable {serde f k}

/-- What is written when credentials are stored. -/
theorem storeCredentials_eq_ok {creds : OAuthCredentials} {k' : Keychain}
    (h : storeCredentials serde f k creds = .ok k') :
    creds.provider ∈ validProviders ∧ ∃ json, serde.writeCredentials creds = .ok json ∧
      k' = Function.update k (formatAccount (credentialsKey creds.provider
        ((creds.userId.filter fun s ↦ s ≠ "").getD "default"))) (some json) := by
  rw [storeCredentials] at h
  split at h
  · cases h
  split at h
  · cases h
  rename_i hvalid
  split at h
  · cases h
  rename_i json hjson
  refine ⟨not_not.mp hvalid, json, hjson, ?_⟩
  rw [Keychain.set] at h
  split at h
  · exact (Except.ok.inj h).symm
  · cases h
  · cases h

/-- Credentials are stored in one account only. -/
theorem storeCredentials_keychain {creds : OAuthCredentials} {k' : Keychain} {account : String}
    (h : storeCredentials serde f k creds = .ok k') (haccount : account ≠ formatAccount
      (credentialsKey creds.provider ((creds.userId.filter fun s ↦ s ≠ "").getD "default"))) :
    k' account = k account := by
  obtain ⟨-, json, -, rfl⟩ := storeCredentials_eq_ok h
  exact Function.update_of_ne haccount ..

end OAuth

/-! ## The resolution -/

/-- The key of an API key. -/
def apiKeySlug (provider : String) : String := provider ++ "-api-key"

/-- The environment variable of a provider. -/
def envVar : String → Option String
  | "anthropic" => some "ANTHROPIC_API_KEY"
  | "openai" => some "OPENAI_API_KEY"
  | "google" => some "GOOGLE_API_KEY"
  | "cohere" => some "COHERE_API_KEY"
  | _ => none

/-- The sources of a credential, as they are when one is asked for. -/
structure Resolution where
  /-- The texts in the keychain. -/
  serde : Serde
  /-- What goes wrong in the keychain. -/
  faults : Faults
  keychain : Keychain
  /-- What the agent resolves for a provider, where its auth file can be loaded. -/
  pi : Option (String → Option String)
  /-- The environment variables. -/
  env : String → Option String

namespace Resolution

variable (toLowercase : String → String) (r : Resolution) (provider : String)

/-- The API key that is stored for a provider, where the keychain gives it. -/
def storedKey (provider : String) : Option String :=
  match r.keychain.get r.faults (apiKeySlug provider) with
  | .ok (some key) => some key
  | _ => none

/-- The API key of a provider in the environment. -/
def envKey (provider : String) : Option String := (envVar provider).bind r.env

/-- `get_key`. -/
def getKey : Option String :=
  let providerLower := toLowercase provider
  match r.storedKey providerLower with
  | some key => some key
  | none => r.envKey providerLower

/-- `provider_oauth_access_token`. -/
def providerOauthAccessToken : Option String :=
  match getCredentials r.serde r.faults r.keychain provider "" with
  | .ok (some creds) =>
    let token := trim creds.accessToken
    if token ≠ "" then some token else none
  | _ => none

/-- `provider_pi_resolved_key`. -/
def providerPiResolvedKey : Option String := r.pi.bind fun auth ↦ auth provider

/-- `select_session_auth_token_from_sources`. -/
def selectSessionAuthTokenFromSources (oauthToken piToken appToken : Option String) :
    Option String :=
  (oauthToken.or piToken).or appToken

/-- `resolve_session_auth_token`. -/
def resolveSessionAuthToken : Option String :=
  let provider := toLowercase provider
  selectSessionAuthTokenFromSources (r.providerOauthAccessToken provider)
    (r.providerPiResolvedKey provider) (r.getKey toLowercase provider)

/-- `provider_has_session_auth`. -/
def providerHasSessionAuth : Bool := (r.resolveSessionAuthToken toLowercase provider).isSome

/-! ## What can be used -/

section Sound

variable (now : ℤ)

/-- The OAuth entry of a provider that can be read. -/
def oauthEntry (provider : String) : Option OAuthCredentials :=
  match getCredentials r.serde r.faults r.keychain provider "" with
  | .ok creds => creds
  | .error _ => none

/-- **What is resolved can be used**: it is not blank, and where it comes from the OAuth entry, that
has not expired; and nothing is resolved only where no source has anything that can be used. -/
structure Sound : Prop where
  /-- A token is not blank. -/
  notBlank : ∀ token, r.resolveSessionAuthToken toLowercase provider = some token → ¬ Blank token
  /-- A token of the OAuth entry has not expired. -/
  notExpired : ∀ token, r.resolveSessionAuthToken toLowercase provider = some token →
    r.providerOauthAccessToken (toLowercase provider) = some token →
      ∀ creds ∈ r.oauthEntry (toLowercase provider), ¬ creds.Expired now
  /-- Without a token, there is no OAuth entry that can be used, -/
  noOauth : r.resolveSessionAuthToken toLowercase provider = none →
    ∀ creds ∈ r.oauthEntry (toLowercase provider), Blank creds.accessToken ∨ creds.Expired now
  /-- nothing that the agent resolves, -/
  noPi : r.resolveSessionAuthToken toLowercase provider = none →
    r.providerPiResolvedKey (toLowercase provider) = none
  /-- no API key that is stored, -/
  noStored : r.resolveSessionAuthToken toLowercase provider = none →
    ∀ key ∈ r.storedKey (toLowercase (toLowercase provider)), Blank key
  /-- and none in the environment. -/
  noEnv : r.resolveSessionAuthToken toLowercase provider = none →
    ∀ key ∈ r.envKey (toLowercase (toLowercase provider)), Blank key

/-- The OAuth entry is as it should be, and so is the API key that is read where there is nothing
else. -/
structure Sane : Prop where
  /-- The OAuth entry has no token, or has not expired. -/
  oauth : ∀ creds ∈ r.oauthEntry (toLowercase provider),
    Blank creds.accessToken ∨ ¬ creds.Expired now
  /-- The API key that is stored is not blank, and if none is, neither is the one of the
  environment. -/
  key : (∀ creds ∈ r.oauthEntry (toLowercase provider), Blank creds.accessToken) →
    r.providerPiResolvedKey (toLowercase provider) = none →
      (∀ key ∈ r.storedKey (toLowercase (toLowercase provider)), ¬ Blank key) ∧
        (r.storedKey (toLowercase (toLowercase provider)) = none →
          ∀ key ∈ r.envKey (toLowercase (toLowercase provider)), ¬ Blank key)

variable {toLowercase r provider now}

theorem providerOauthAccessToken_eq (provider : String) :
    r.providerOauthAccessToken provider = (r.oauthEntry provider).bind fun creds ↦
      if Blank creds.accessToken then none else some (trim creds.accessToken) := by
  rw [providerOauthAccessToken, oauthEntry]
  cases getCredentials r.serde r.faults r.keychain provider "" with
  | error e => rfl
  | ok creds =>
    cases creds with
    | none => rfl
    | some creds =>
      rw [Option.bind_some]
      dsimp only
      by_cases hblank : Blank creds.accessToken
      · rw [if_pos hblank, if_neg (not_not.mpr ((trim_eq_empty_iff _).mpr hblank))]
      · rw [if_neg hblank, if_pos (mt (trim_eq_empty_iff _).mp hblank)]

/-- A token of the OAuth entry is what is left of one that is not blank. -/
theorem providerOauthAccessToken_eq_some {provider token : String} :
    r.providerOauthAccessToken provider = some token ↔
      ∃ creds, r.oauthEntry provider = some creds ∧ ¬ Blank creds.accessToken ∧
        trim creds.accessToken = token := by
  rw [providerOauthAccessToken_eq, Option.bind_eq_some_iff]
  refine exists_congr fun creds ↦ and_congr_right fun _ ↦ ?_
  by_cases hblank : Blank creds.accessToken
  · rw [if_pos hblank]
    exact iff_of_false (Option.some_ne_none token).symm fun h ↦ h.1 hblank
  · rw [if_neg hblank, Option.some_inj, and_iff_right hblank]

theorem providerOauthAccessToken_eq_none {provider : String} :
    r.providerOauthAccessToken provider = none ↔
      ∀ creds ∈ r.oauthEntry provider, Blank creds.accessToken := by
  rw [providerOauthAccessToken_eq, Option.bind_eq_none_iff]
  refine forall_congr' fun creds ↦ imp_congr Iff.rfl ?_
  rw [ite_eq_left_iff]
  exact ⟨fun h ↦ by_contra fun hblank ↦ Option.some_ne_none _ (h hblank),
    fun hblank hnot ↦ absurd hblank hnot⟩

theorem getKey_eq (provider : String) :
    r.getKey toLowercase provider =
      (r.storedKey (toLowercase provider)).or (r.envKey (toLowercase provider)) := by
  rw [getKey]
  cases r.storedKey (toLowercase provider) <;> rfl

/-- The order in which the sources are asked. -/
theorem resolveSessionAuthToken_eq : r.resolveSessionAuthToken toLowercase provider =
    ((r.providerOauthAccessToken (toLowercase provider)).or
      (r.providerPiResolvedKey (toLowercase provider))).or
        ((r.storedKey (toLowercase (toLowercase provider))).or
          (r.envKey (toLowercase (toLowercase provider)))) := by
  rw [resolveSessionAuthToken, selectSessionAuthTokenFromSources, getKey_eq]

/-- An API key is stored where there is an entry for it. -/
theorem storedKey_eq (provider : String) : r.storedKey provider =
    if (r.faults.get (formatAccount (apiKeySlug provider))).isSome then none
    else r.keychain (formatAccount (apiKeySlug provider)) := by
  rw [storedKey, Keychain.get]
  cases r.faults.get (formatAccount (apiKeySlug provider)) with
  | some fault => cases fault <;> rfl
  | none =>
    rw [Option.isSome_none, if_neg Bool.false_ne_true]
    cases r.keychain (formatAccount (apiKeySlug provider)) <;> rfl

/-- The resolution reads two entries of the keychain. -/
theorem resolveSessionAuthToken_congr {k : Keychain}
    (hoauth : k (formatAccount (credentialsKey (toLowercase provider) "default")) =
      r.keychain (formatAccount (credentialsKey (toLowercase provider) "default")))
    (hkey : k (formatAccount (apiKeySlug (toLowercase (toLowercase provider)))) =
      r.keychain (formatAccount (apiKeySlug (toLowercase (toLowercase provider))))) :
    ({ r with keychain := k } : Resolution).resolveSessionAuthToken toLowercase provider =
      r.resolveSessionAuthToken toLowercase provider := by
  have hget : k.get r.faults (credentialsKey (toLowercase provider) "default") =
      r.keychain.get r.faults (credentialsKey (toLowercase provider) "default") := by
    rw [Keychain.get, Keychain.get, hoauth]
  have hgetKey : k.get r.faults (apiKeySlug (toLowercase (toLowercase provider))) =
      r.keychain.get r.faults (apiKeySlug (toLowercase (toLowercase provider))) := by
    rw [Keychain.get, Keychain.get, hkey]
  simp only [resolveSessionAuthToken_eq, providerOauthAccessToken, getCredentials, if_true, hget,
    providerPiResolvedKey, storedKey, hgetKey, envKey]

/-- Nothing is resolved where no source has anything. -/
theorem resolveSessionAuthToken_eq_none_iff :
    r.resolveSessionAuthToken toLowercase provider = none ↔
      r.providerOauthAccessToken (toLowercase provider) = none ∧
      r.providerPiResolvedKey (toLowercase provider) = none ∧
      r.storedKey (toLowercase (toLowercase provider)) = none ∧
      r.envKey (toLowercase (toLowercase provider)) = none := by
  rw [resolveSessionAuthToken_eq, Option.or_eq_none_iff, Option.or_eq_none_iff,
    Option.or_eq_none_iff, and_assoc]

/-- Where the tokens can be used, the sources are sane. -/
theorem Sound.sane (h : r.Sound toLowercase provider now) : r.Sane toLowercase provider now where
  oauth creds hcreds := by
    by_contra hbad
    obtain ⟨hblank, hexpired⟩ := not_or.mp hbad
    have htoken := providerOauthAccessToken_eq_some.mpr ⟨creds, hcreds, hblank, rfl⟩
    refine hexpired (h.notExpired _ ?_ htoken creds hcreds)
    rw [resolveSessionAuthToken_eq, htoken]
    rfl
  key hoauth hpi := by
    have hresolve : r.resolveSessionAuthToken toLowercase provider = _ := resolveSessionAuthToken_eq
    rw [providerOauthAccessToken_eq_none.mpr hoauth, hpi] at hresolve
    refine ⟨fun key hkey ↦ h.notBlank key ?_, fun hstored key hkey ↦ h.notBlank key ?_⟩
    · rw [hresolve, Option.mem_def.mp hkey]
      rfl
    · rw [hresolve, hstored, Option.mem_def.mp hkey]
      rfl

/-- Sane sources have no blank tokens. -/
theorem Sane.not_blank (h : r.Sane toLowercase provider now)
    (hpi : ∀ auth ∈ r.pi, ∀ p token, auth p = some token → ¬ Blank token) {token : String}
    (htoken : r.resolveSessionAuthToken toLowercase provider = some token) : ¬ Blank token := by
  rw [resolveSessionAuthToken_eq] at htoken
  cases hoauth : r.providerOauthAccessToken (toLowercase provider) with
  | some t =>
    obtain ⟨creds, -, hblank, rfl⟩ := providerOauthAccessToken_eq_some.mp hoauth
    rw [hoauth] at htoken
    exact Option.some.inj htoken ▸ not_blank_trim hblank
  | none =>
    cases hpiToken : r.providerPiResolvedKey (toLowercase provider) with
    | some t =>
      obtain ⟨auth, hauth, ht⟩ := Option.bind_eq_some_iff.mp hpiToken
      rw [hoauth, hpiToken] at htoken
      exact Option.some.inj htoken ▸ hpi auth hauth _ _ ht
    | none =>
      obtain ⟨hstored, henv⟩ := h.key (providerOauthAccessToken_eq_none.mp hoauth) hpiToken
      rw [hoauth, hpiToken, Option.or_none, Option.none_or] at htoken
      cases hkey : r.storedKey (toLowercase (toLowercase provider)) with
      | some key =>
        rw [hkey] at htoken
        exact Option.some.inj htoken ▸ hstored key hkey
      | none =>
        rw [hkey, Option.none_or] at htoken
        exact henv hkey token htoken

/-- Where the sources are sane, the tokens can be used. -/
theorem Sane.sound (h : r.Sane toLowercase provider now)
    (hpi : ∀ auth ∈ r.pi, ∀ p token, auth p = some token → ¬ Blank token) :
    r.Sound toLowercase provider now where
  notBlank token htoken := h.not_blank hpi htoken
  notExpired token _ hoauth creds hcreds := by
    obtain ⟨creds', hcreds', hblank, -⟩ := providerOauthAccessToken_eq_some.mp hoauth
    obtain rfl := Option.some.inj (hcreds'.symm.trans hcreds)
    exact (h.oauth creds' hcreds).resolve_left hblank
  noOauth hnone creds hcreds := by
    obtain ⟨hoauth, -⟩ := resolveSessionAuthToken_eq_none_iff.mp hnone
    exact .inl (providerOauthAccessToken_eq_none.mp hoauth creds hcreds)
  noPi hnone := (resolveSessionAuthToken_eq_none_iff.mp hnone).2.1
  noStored hnone key hkey := by
    rw [(resolveSessionAuthToken_eq_none_iff.mp hnone).2.2.1] at hkey
    cases hkey
  noEnv hnone key hkey := by
    rw [(resolveSessionAuthToken_eq_none_iff.mp hnone).2.2.2] at hkey
    cases hkey

end Sound

/-- The sources after an API key has been stored for a provider, with nothing else there. -/
def withKey (provider key : String) : Resolution where
  serde := ⟨fun _ ↦ .error "expected value at line 1 column 1", fun _ ↦ .ok "{}",
    fun _ ↦ .error "expected value at line 1 column 1"⟩
  faults := .none
  keychain account := if account = formatAccount (apiKeySlug provider) then some key else none
  pi := some fun _ ↦ none
  env _ := none

end Resolution

end WorkWithMe.Server.Credentials
