import WorkWithMe.Server.Login

/-!
# Who may touch the keychain

`create_app` of `server/mod.rs` puts the routes that work on the keychain into a router of their
own, which `auth_middleware` guards: a request has to come with the token of the server.  But these
are not the only routes behind which the keychain is.  `set_key` writes into it, `logout` deletes
from it, and the `callback` of a login does both; `get_configured`, the list of the models and
`create_session` read from it.

* `routes` is the table of the routes, and `serve` what a request does and is answered.
* `Closed` is what is to hold of requests without the token: the keychain stays as it is, and the
  answers are the same whatever its secrets are.
* **`closed_of_guarded`** says that it does hold of requests none of which stores another API key,
  logs out of something that is stored, or comes with the state of a login that is stored.
  `serve_keychain` and `serve_alike` are the steps of its two halves; the second one is taken from
  two keychains at a time.

The handlers that do not get at the keychain are the parameter `Rest`: they work on a state in which
there is no keychain.
-/

set_option autoImplicit false

namespace WorkWithMe.Server.Router

open Credentials Login

universe u v

/-! ## The routes -/

/-- The methods of the routes, and `HEAD`, which is routed as `GET` is. -/
inductive Method where
  | get
  | head
  | post
  | put
  | delete
  | other
  deriving DecidableEq

/-- The handlers that get at credentials, and the others, by their names. -/
inductive Handler where
  | keychainGet
  | keychainSet
  | keychainDelete
  | setKey
  | getConfigured
  | login
  | completeLogin
  | callback
  | status
  | logout
  | listModels
  | createSession
  | other (name : String)
  deriving DecidableEq

/-- A route: the segments of its path, among them parameters in braces. -/
structure Route where
  method : Method
  path : List String
  handler : Handler
  deriving DecidableEq

/-- The routes behind `auth_middleware`. -/
def protectedRoutes : List Route :=
  [⟨.get, ["api", "keychain", "\x7bkey\x7d"], .keychainGet⟩,
    ⟨.post, ["api", "keychain"], .keychainSet⟩,
    ⟨.delete, ["api", "keychain", "\x7bkey\x7d"], .keychainDelete⟩,
    ⟨.get, ["api", "clipboard", "paste"], .other "clipboard_endpoints::paste"⟩,
    ⟨.get, ["api", "files", "list"], .other "files_endpoints::list"⟩,
    ⟨.get, ["api", "files", "search"], .other "files_endpoints::search"⟩,
    ⟨.get, ["api", "files", "info"], .other "files_endpoints::info"⟩]

/-- The other routes. -/
def openRoutes : List Route :=
  [⟨.get, [], .other "ws_handler"⟩,
    ⟨.get, ["api", "health"], .other "health_check"⟩,
    ⟨.get, ["api", "ws", "connections"], .other "ws_connections"⟩,
    ⟨.get, ["api", "skills"], .other "skills_endpoints::list"⟩,
    ⟨.get, ["api", "skills", "\x7bsource\x7d", "\x7bslug\x7d"], .other "skills_endpoints::get"⟩,
    ⟨.post, ["api", "audit"], .other "audit_endpoints::log"⟩,
    ⟨.get, ["api", "sessions"], .other "sessions_endpoints::list"⟩,
    ⟨.post, ["api", "sessions"], .other "sessions_endpoints::create"⟩,
    ⟨.post, ["api", "sessions", "load"], .other "sessions_endpoints::load"⟩,
    ⟨.post, ["api", "sessions", "archive"], .other "sessions_endpoints::archive_by_path"⟩,
    ⟨.get, ["api", "sessions", "\x7bid\x7d"], .other "sessions_endpoints::get"⟩,
    ⟨.put, ["api", "sessions", "\x7bid\x7d"], .other "sessions_endpoints::update"⟩,
    ⟨.post, ["api", "sessions", "\x7bid\x7d", "archive"], .other "sessions_endpoints::archive"⟩,
    ⟨.get, ["api", "mcp"], .other "mcp_endpoints::get_config"⟩,
    ⟨.post, ["api", "mcp"], .other "mcp_endpoints::update_config"⟩,
    ⟨.get, ["api", "mcp", "catalog"], .other "mcp_endpoints::get_catalog"⟩,
    ⟨.get, ["api", "connectors"], .other "connectors_endpoints::list"⟩,
    ⟨.get, ["api", "connectors", "remote-mcp", "\x7bslug\x7d"], .other "connectors_endpoints::get"⟩,
    ⟨.post, ["api", "connectors", "remote-mcp"], .other "connectors_endpoints::add"⟩,
    ⟨.put, ["api", "connectors", "remote-mcp", "\x7bslug\x7d"],
      .other "connectors_endpoints::update"⟩,
    ⟨.delete, ["api", "connectors", "remote-mcp", "\x7bslug\x7d"],
      .other "connectors_endpoints::remove"⟩,
    ⟨.get, ["api", "auth", "oauth-providers"], .other "oauth_endpoints::list_providers"⟩,
    ⟨.get, ["api", "auth", "login"], .login⟩,
    ⟨.post, ["api", "auth", "login", "complete"], .completeLogin⟩,
    ⟨.get, ["api", "auth", "callback"], .callback⟩,
    ⟨.get, ["api", "auth", "status"], .status⟩,
    ⟨.post, ["api", "auth", "logout"], .logout⟩,
    ⟨.post, ["api", "auth", "key"], .setKey⟩,
    ⟨.get, ["api", "auth"], .getConfigured⟩,
    ⟨.post, ["api", "model"], .other "agent_endpoints::set_model"⟩,
    ⟨.get, ["api", "thinking"], .other "agent_endpoints::get_thinking"⟩,
    ⟨.post, ["api", "thinking"], .other "agent_endpoints::set_thinking"⟩,
    ⟨.post, ["api", "stop"], .other "agent_endpoints::stop_agent"⟩,
    ⟨.get, ["api", "project"], .other "agent_endpoints::get_project"⟩,
    ⟨.post, ["api", "project"], .other "agent_endpoints::set_project"⟩,
    ⟨.get, ["api", "sandbox", "status"], .other "agent_endpoints::sandbox_status"⟩,
    ⟨.post, ["api", "agent", "session"], .createSession⟩,
    ⟨.get, ["api", "settings"], .other "settings_endpoints::get_all"⟩,
    ⟨.post, ["api", "settings"], .other "settings_endpoints::save_all"⟩,
    ⟨.get, ["api", "settings", "\x7bkey\x7d"], .other "settings_endpoints::get"⟩,
    ⟨.post, ["api", "settings", "\x7bkey\x7d"], .other "settings_endpoints::set"⟩,
    ⟨.delete, ["api", "settings", "\x7bkey\x7d"], .other "settings_endpoints::delete"⟩,
    ⟨.get, ["api", "models"], .listModels⟩,
    ⟨.get, ["api", "models", "selected"], .other "models_endpoints::get_selected"⟩,
    ⟨.post, ["api", "models", "select", "\x7bid\x7d"], .other "models_endpoints::select"⟩,
    ⟨.post, ["api", "models", "add"], .other "models_endpoints::add"⟩,
    ⟨.delete, ["api", "models", "\x7bid\x7d"], .other "models_endpoints::remove"⟩,
    ⟨.post, ["api", "clipboard", "copy"], .other "clipboard_endpoints::copy"⟩,
    ⟨.post, ["api", "notifications", "send"], .other "notifications_endpoints::send"⟩,
    ⟨.get, ["api", "notifications"], .other "notifications_endpoints::list"⟩,
    ⟨.get, ["api", "processes"], .other "processes_endpoints::list"⟩,
    ⟨.post, ["api", "processes", "\x7bid\x7d", "kill"], .other "processes_endpoints::kill"⟩,
    ⟨.get, ["api", "logs"], .other "logging_endpoints::get_logs"⟩,
    ⟨.get, ["api", "logs", "level"], .other "logging_endpoints::get_level"⟩,
    ⟨.post, ["api", "logs", "level"], .other "logging_endpoints::set_level"⟩,
    ⟨.post, ["api", "logs", "clear"], .other "logging_endpoints::clear"⟩,
    ⟨.get, ["api", "plugins"], .other "plugins_endpoints::list"⟩,
    ⟨.post, ["api", "plugins", "install"], .other "plugins_endpoints::install"⟩,
    ⟨.get, ["api", "plugins", "stats"], .other "plugins_endpoints::stats"⟩,
    ⟨.get, ["api", "plugins", "\x7bid\x7d"], .other "plugins_endpoints::get"⟩,
    ⟨.post, ["api", "plugins", "\x7bid\x7d", "enable"], .other "plugins_endpoints::enable"⟩,
    ⟨.post, ["api", "plugins", "\x7bid\x7d", "disable"], .other "plugins_endpoints::disable"⟩,
    ⟨.delete, ["api", "plugins", "\x7bid\x7d"], .other "plugins_endpoints::uninstall"⟩,
    ⟨.post, ["api", "plugins", "\x7bid\x7d", "call"], .other "plugins_endpoints::call"⟩]

/-- The segment of a pattern is a parameter. -/
def isParam (seg : String) : Bool := seg.toList.head? = some '\x7b'

/-- The path has the form of the pattern. -/
def fits : List String → List String → Bool
  | [], [] => true
  | p :: pattern, seg :: path => (isParam p || p == seg) && fits pattern path
  | _, _ => false

/-- The pattern that a path is routed by: one without parameters goes before the others. -/
def patternOf (path : List String) : Option (List String) :=
  let patterns := (protectedRoutes ++ openRoutes).map Route.path
  (patterns.find? fun pattern ↦ pattern == path).or (patterns.find? fun pattern ↦ fits pattern path)

/-- The route takes the method. -/
def Route.takes (r : Route) (m : Method) : Bool := r.method == m || (r.method == .get && m == .head)

/-- The route of a pattern that takes the method. -/
def routeOf (m : Method) (pattern : List String) : Option Route :=
  (protectedRoutes ++ openRoutes).find? fun r ↦ r.path == pattern && r.takes m

/-- The pattern is behind `auth_middleware`. -/
def isProtected (pattern : List String) : Bool := (protectedRoutes.map Route.path).contains pattern

/-! ## Requests and responses -/

/-- An HTTP request. -/
structure HttpRequest where
  method : Method
  path : List String
  /-- The header `Authorization`, where it is a text. -/
  authorization : Option String
  query : String
  body : String

/-- What is in a response. -/
inductive Body where
  | json (v : Json)
  | text (s : String)
  | empty

/-- An HTTP response. -/
structure Response where
  status : ℕ
  body : Body

/-- The response with an answer. -/
def respond (a : Answer) : Response := ⟨a.status, .json a.body⟩

/-- The response to `HEAD` has no body. -/
def Response.to (r : Response) (m : Method) : Response :=
  if m = .head then { r with body := .empty } else r

/-- What the extractors make of the query or the body of a request. -/
structure Extract where
  keychainSet : HttpRequest → Except Response (String × String)
  setKey : HttpRequest → Except Response (String × String)
  login : HttpRequest → Except Response String
  completeLogin : HttpRequest → Except Response (String × Option String)
  callback : HttpRequest → Except Response (Option String × Option String × Option String)
  logout : HttpRequest → Except Response (String × String)

/-- A request, and what the environment answers during it. -/
structure Event (Cred : Type u) where
  request : HttpRequest
  env : Env Cred
  /-- What the outer layers answer in place of the routes: the rate limit, the size limit, and the
  preflight requests of CORS. -/
  refusal : Option Response
  /-- The environment variables. -/
  vars : String → Option String
  /-- The label of a session that is asked for with an API key. -/
  label : String

/-- The handlers that do not get at the keychain, on a state of their own. -/
structure Rest (Cred : Type u) (W : Type v) where
  other : String → Event Cred → W → W × Response
  /-- The list of the models, by the providers that are configured. -/
  listModels : List String → Event Cred → W → W × Response
  /-- A session is created, with a label if there is an API key to ask for one with. -/
  createSession : Option String → Event Cred → W → W × Response

/-- The state of the server. -/
structure State (Cred : Type u) (W : Type v) where
  stores : Stores Cred
  rest : W

/-- The server, and what it is made of. -/
structure App (Cred : Type u) (W : Type v) where
  agent : Agent Cred
  serde : Serde
  toLowercase : String → String
  extract : Extract
  rest : Rest Cred W

section Handlers

variable {Cred : Type u} {W : Type v} (app : App Cred W) (e : Event Cred) (s : Stores Cred)

/-- The sources of a credential. -/
def resolution : Resolution :=
  { s.resolution app.agent app.serde e.env.faults e.vars s.now with
    pi := if e.env.load.isNone then some fun p ↦ app.agent.resolve (s.auth p) p s.now else none }

/-- The providers that are asked for. -/
def allProviders : List String := ["anthropic", "openai", "google", "cohere"]

/-- The providers with a credential. -/
def configuredProviders : List String :=
  allProviders.filter fun p ↦ (resolution app e s).providerHasSessionAuth app.toLowercase p

/-- `keychain_endpoints::get`. -/
def keychainGet (key : String) : Answer :=
  match s.keychain.get e.env.faults key with
  | .ok (some token) => ⟨200, .obj [("success", .bool true), ("token", .str token)]⟩
  | .ok none => failed 200 "Token not found"
  | .error err => failed 200 err

/-- `keychain_endpoints::set`. -/
def keychainSet (key token : String) : Stores Cred × Answer :=
  match s.keychain.set e.env.faults key token with
  | .ok k => ({ s with keychain := k }, ⟨200, .obj [("success", .bool true)]⟩)
  | .error err => (s, failed 500 err)

/-- `keychain_endpoints::delete`. -/
def keychainDelete (key : String) : Stores Cred × Answer :=
  match s.keychain.delete e.env.faults key with
  | .ok (found, k) =>
    ({ s with keychain := k }, ⟨200, .obj [("success", .bool true), ("deleted", .bool found)]⟩)
  | .error err => (s, failed 200 err)

/-- `set_key`. -/
def setKey (provider key : String) : Stores Cred × Answer :=
  match s.keychain.set e.env.faults (apiKeySlug (app.toLowercase provider)) key with
  | .ok k => ({ s with keychain := k },
      ⟨200, .obj [("success", .bool true), ("message", .str ("API key stored for " ++ provider))]⟩)
  | .error err => (s, failed 500 err)

/-- `get_configured`. -/
def getConfigured : Answer :=
  ⟨200, .obj [("availableProviders", .arr (allProviders.map .str)),
    ("configured", .arr ((configuredProviders app e s).map .str))]⟩

/-- `status`. -/
def status : Answer :=
  let authenticated := summaries.filter fun p ↦ e.env.load.isNone &&
    app.agent.credentialStatus (s.auth p) s.now == .present
  ⟨200, .obj [("authenticated_providers", .arr (authenticated.map .str)),
    ("has_credentials", .bool (!authenticated.isEmpty))]⟩

/-- The label of a new session: the API key is the one of the environment, or the stored one. -/
def sessionLabel : Option String :=
  let apiKey := (e.vars "ANTHROPIC_API_KEY").or
    (match s.keychain.get e.env.faults "anthropic-api-key" with
    | .ok key => key
    | .error _ => none)
  apiKey.map fun _ ↦ e.label

/-- A handler that is given what an extractor has made of the request. -/
def extracted {α : Type} (args : Except Response α) (s : Stores Cred) (w : W)
    (handler : α → Stores Cred × Answer) : State Cred W × Response :=
  match args with
  | .error response => (⟨s, w⟩, response)
  | .ok args => (⟨(handler args).1, w⟩, respond (handler args).2)

/-- What a handler does, at its time. -/
def run (w : W) : Handler → State Cred W × Response
  | .keychainGet => (⟨s, w⟩, respond (keychainGet e s (e.request.path.getLastD "")))
  | .keychainSet => extracted (app.extract.keychainSet e.request) s w fun (key, token) ↦
      keychainSet e s key token
  | .keychainDelete =>
      extracted (.ok ()) s w fun _ ↦ keychainDelete e s (e.request.path.getLastD "")
  | .setKey => extracted (app.extract.setKey e.request) s w fun (provider, key) ↦
      setKey app e s provider key
  | .getConfigured => (⟨s, w⟩, respond (getConfigured app e s))
  | .login => extracted (app.extract.login e.request) s w fun provider ↦ login e.env s provider
  | .completeLogin => extracted (app.extract.completeLogin e.request) s w fun (id, code) ↦
      completeLogin e.env s id code
  | .callback => extracted (app.extract.callback e.request) s w fun (error, code, state) ↦
      callback app.serde e.env s error code state
  | .status => (⟨s, w⟩, respond (status app e s))
  | .logout => extracted (app.extract.logout e.request) s w fun (provider, userId) ↦
      logout e.env s provider userId
  | .listModels =>
    let result := app.rest.listModels (configuredProviders app e s) e w
    (⟨s, result.1⟩, result.2)
  | .createSession =>
    let result := app.rest.createSession (sessionLabel e s) e w
    (⟨s, result.1⟩, result.2)
  | .other name =>
    let result := app.rest.other name e w
    (⟨s, result.1⟩, result.2)

/-- What `auth_middleware` takes for a token. -/
def provided (r : HttpRequest) : Option String :=
  r.authorization.bind fun v ↦
    if "Bearer ".toList <+: v.toList then some (.ofList (v.toList.drop "Bearer ".toList.length))
    else none

/-- What a request does, and what it is answered. -/
def serve (token : String) (st : State Cred W) : State Cred W × Response :=
  let s := st.stores.later e.env
  match e.refusal with
  | some response => (⟨s, st.rest⟩, response)
  | none =>
    match patternOf e.request.path with
    | none => run app e s st.rest (.other "static_files_handler")
    | some pattern =>
      if isProtected pattern = true ∧ provided e.request ≠ some token then
        (⟨s, st.rest⟩, ⟨401, .text "Unauthorized"⟩)
      else
        match routeOf e.request.method pattern with
        | none => (⟨s, st.rest⟩, ⟨405, .empty⟩)
        | some route =>
          let result := run app e s st.rest route.handler
          (result.1, result.2.to e.request.method)

/-- One request after the other. -/
def serveAll (token : String) : State Cred W → List (Event Cred) → State Cred W × List Response
  | st, [] => (st, [])
  | st, e :: es =>
    let result := serve app e token st
    let rest := serveAll token result.1 es
    (rest.1, result.2 :: rest.2)

end Handlers

/-! ## Which handlers are open -/

/-- The request comes with the token of the server. -/
def Authorized (token : String) (r : HttpRequest) : Prop :=
  r.authorization = some ("Bearer " ++ token)

/-- **What `auth_middleware` asks for.** -/
theorem provided_eq_some_iff {token : String} {r : HttpRequest} :
    provided r = some token ↔ Authorized token r := by
  rw [provided, Authorized, Option.bind_eq_some_iff]
  constructor
  · rintro ⟨v, hv, htoken⟩
    split at htoken
    · rename_i hprefix
      obtain ⟨rest, hrest⟩ := hprefix
      have hheader : v = "Bearer " ++ .ofList rest := by
        have hlist : (String.ofList rest).toList = rest := String.toList_ofList
        rw [← String.toList_inj, String.toList_append, hlist, hrest]
      rw [← hrest, List.drop_left] at htoken
      rw [hv, hheader, Option.some.inj htoken]
    · cases htoken
  · intro h
    refine ⟨_, h, ?_⟩
    rw [String.toList_append, if_pos (List.prefix_append ..), List.drop_left, String.ofList_toList]

/-- The handler works on the keychain only. -/
def Handler.IsKeychain (h : Handler) : Prop :=
  h = .keychainGet ∨ h = .keychainSet ∨ h = .keychainDelete

instance (h : Handler) : Decidable h.IsKeychain := inferInstanceAs (Decidable (_ ∨ _))

/-- **The handlers of the keychain are behind `auth_middleware`.** -/
theorem not_isKeychain_of_route {m : Method} {pattern : List String} {route : Route}
    (h : routeOf m pattern = some route) (hopen : ¬ isProtected pattern = true) :
    ¬ route.handler.IsKeychain := by
  have hroute := List.find?_some h
  have hpath : route.path = pattern := by simpa using (Bool.and_eq_true_iff.mp hroute).1
  obtain hmem | hmem := List.mem_append.mp (List.mem_of_find?_eq_some h)
  · refine absurd ?_ hopen
    rw [isProtected, List.contains_iff_mem, ← hpath]
    exact List.mem_map_of_mem hmem
  · have hhandlers : ∀ r ∈ openRoutes, ¬ r.handler.IsKeychain := by decide
    exact hhandlers route hmem

/-! ## The keychain stays as it is -/

section Harmless

variable {Cred : Type u} {W : Type v} {app : App Cred W} {e : Event Cred} {s : Stores Cred} {w : W}

/-- **What an open handler must not be asked for**, where the keychain lets it through: to store
another API key, to log out of something that is stored, and to go on with a login whose state is
stored. -/
def Harmless (app : App Cred W) (e : Event Cred) (s : Stores Cred) : Handler → Prop
  | .setKey => ∀ provider key, app.extract.setKey e.request = .ok (provider, key) →
      e.env.faults.set (formatAccount (apiKeySlug (app.toLowercase provider))) = none →
        s.keychain (formatAccount (apiKeySlug (app.toLowercase provider))) = some key
  | .logout => ∀ provider userId, app.extract.logout e.request = .ok (provider, userId) →
      e.env.faults.delete (formatAccount (credentialsKey provider userId)) = none →
        s.keychain (formatAccount (credentialsKey provider userId)) = none
  | .callback => ∀ code state, app.extract.callback e.request = .ok (none, some code, some state) →
      e.env.faults.get (formatAccount ("oauth_state_" ++ state)) = none →
        s.keychain (formatAccount ("oauth_state_" ++ state)) = none
  | _ => True

/-- An answer of a handler leaves the keychain as it is. -/
theorem extracted_keychain {α : Type} {args : Except Response α}
    {handler : α → Stores Cred × Answer}
    (h : ∀ a, args = .ok a → (handler a).1.keychain = s.keychain) :
    (extracted args s w handler).1.stores.keychain = s.keychain := by
  rw [extracted.eq_def]
  split
  · rfl
  · exact h _ rfl

theorem setKey_keychain {provider key : String}
    (h : e.env.faults.set (formatAccount (apiKeySlug (app.toLowercase provider))) = none →
      s.keychain (formatAccount (apiKeySlug (app.toLowercase provider))) = some key) :
    (setKey app e s provider key).1.keychain = s.keychain := by
  rw [setKey, Keychain.set]
  cases hfault : e.env.faults.set (formatAccount (apiKeySlug (app.toLowercase provider))) with
  | none =>
    dsimp only
    rw [← h hfault, Function.update_eq_self]
  | some fault => cases fault <;> rfl

theorem logout_keychain {provider userId : String}
    (h : e.env.faults.delete (formatAccount (credentialsKey provider userId)) = none →
      s.keychain (formatAccount (credentialsKey provider userId)) = none) :
    (logout e.env s provider userId).1.keychain = s.keychain := by
  cases hfault : e.env.faults.delete (formatAccount (credentialsKey provider userId)) with
  | none =>
    rw [logout_eq hfault]
    dsimp only
    rw [← h hfault, Function.update_eq_self]
  | some fault =>
    rw [logout, deleteCredentials, Keychain.delete, hfault]
    cases fault <;> rfl

/-- A state that is not there is not found, in whichever keychain. -/
theorem exists_callback_eq (serde : Serde) (e : Env Cred) (s : Stores Cred)
    (error code state : Option String)
    (h : ∀ c st, error = none → code = some c → state = some st →
      e.faults.get (formatAccount ("oauth_state_" ++ st)) = none →
        s.keychain (formatAccount ("oauth_state_" ++ st)) = none) :
    ∃ answer, ∀ k, (∀ account, s.keychain account = none → k account = none) →
      callback serde e { s with keychain := k } error code state =
        ({ s with keychain := k }, answer) := by
  cases error with
  | some err => exact ⟨_, fun k _ ↦ rfl⟩
  | none =>
    cases code with
    | none => exact ⟨_, fun k _ ↦ rfl⟩
    | some c =>
      cases state with
      | none => exact ⟨_, fun k _ ↦ rfl⟩
      | some st =>
        cases hfault : e.faults.get (formatAccount ("oauth_state_" ++ st)) with
        | none =>
          refine ⟨failed 400 ("State validation failed: " ++ "State not found or invalid"),
            fun k hk ↦ ?_⟩
          have hnone := hk _ (h c st rfl rfl rfl hfault)
          have hget : k.get e.faults ("oauth_state_" ++ st) = .ok none := by
            rw [Keychain.get, hfault, hnone]
          dsimp only [callback, validateAndRemoveAuthState]
          rw [hget]
        | some fault =>
          obtain ⟨err, herr⟩ : ∃ err, ∀ k : Keychain,
              k.get e.faults ("oauth_state_" ++ st) = .error err := by
            cases fault <;> exact ⟨_, fun k ↦ by rw [Keychain.get, hfault]⟩
          refine ⟨failed 400 ("State validation failed: " ++ err), fun k _ ↦ ?_⟩
          dsimp only [callback, validateAndRemoveAuthState]
          rw [herr k]

theorem login_keychain (provider : String) : (login e.env s provider).1.keychain = s.keychain := by
  rw [login]
  split
  · split <;> rfl
  · dsimp only
    split <;> rfl

theorem completeLogin_keychain (id : String) (code : Option String) :
    (completeLogin e.env s id code).1.keychain = s.keychain := by
  rw [completeLogin]
  cases s.pending id with
  | none => rfl
  | some pending =>
    cases e.env.load with
    | some err => rfl
    | none =>
      dsimp only
      cases credentialResult e.env pending code with
      | error answer => rfl
      | ok result =>
        cases result with
        | error err => rfl
        | ok credential => cases e.env.save <;> rfl

/-- **A handler that is asked for nothing harmful leaves the keychain as it is.** -/
theorem run_keychain {handler : Handler} (hopen : ¬ handler.IsKeychain)
    (hharmless : Harmless app e s handler) :
    (run app e s w handler).1.stores.keychain = s.keychain := by
  cases handler with
  | keychainGet => exact absurd (.inl rfl) hopen
  | keychainSet => exact absurd (.inr (.inl rfl)) hopen
  | keychainDelete => exact absurd (.inr (.inr rfl)) hopen
  | setKey => exact extracted_keychain fun a ha ↦ setKey_keychain (hharmless a.1 a.2 ha)
  | login => exact extracted_keychain fun a _ ↦ login_keychain a
  | completeLogin => exact extracted_keychain fun a _ ↦ completeLogin_keychain a.1 a.2
  | callback =>
    refine extracted_keychain fun a ha ↦ ?_
    obtain ⟨error, code, state⟩ := a
    obtain ⟨answer, hanswer⟩ := exists_callback_eq app.serde e.env s error code state
      (by rintro c st rfl rfl rfl; exact hharmless c st ha)
    have hself : callback app.serde e.env s error code state = (s, answer) :=
      hanswer s.keychain fun _ hnone ↦ hnone
    dsimp only
    rw [hself]
  | logout => exact extracted_keychain fun a ha ↦ logout_keychain (hharmless a.1 a.2 ha)
  | getConfigured => rfl
  | status => rfl
  | listModels => rfl
  | createSession => rfl
  | other name => rfl

end Harmless

/-! ## The answers do not depend on the secrets -/

/-- **The keychains differ in their secrets only**: they have the same entries, and the same of them
are OAuth entries with a token. -/
structure Alike (serde : Serde) (k k' : Keychain) : Prop where
  present : ∀ account, (k account).isSome = (k' account).isSome
  usable : ∀ p, (slotToken serde k p).isSome = (slotToken serde k' p).isSome

section Alike

variable {Cred : Type u} {W : Type v} {app : App Cred W} {e : Event Cred} {s : Stores Cred} {w : W}
variable {serde : Serde} {k k' : Keychain}

theorem Alike.refl (serde : Serde) (k : Keychain) : Alike serde k k := ⟨fun _ ↦ rfl, fun _ ↦ rfl⟩

theorem Alike.eq_none_iff (h : Alike serde k k') (account : String) :
    k account = none ↔ k' account = none := by
  have hpresent := h.present account
  rw [← Option.not_isSome_iff_eq_none, ← Option.not_isSome_iff_eq_none, hpresent]

/-- What is written into both is the same. -/
theorem Alike.update (h : Alike serde k k') (account : String) (v : Option String) :
    Alike serde (Function.update k account v) (Function.update k' account v) where
  present a := by
    by_cases ha : a = account
    · rw [ha, Function.update_self, Function.update_self]
    · rw [Function.update_of_ne ha, Function.update_of_ne ha]
      exact h.present a
  usable p := by
    have husable := h.usable p
    rw [slotToken, slotToken] at husable ⊢
    by_cases hp : slot p = account
    · rw [hp, Function.update_self, Function.update_self]
    · rw [Function.update_of_ne hp, Function.update_of_ne hp]
      exact husable

/-- The answer is the same, and so are the stores afterwards, but for the secrets. -/
def SameAnswer (serde : Serde) (r r' : Stores Cred × Answer) : Prop :=
  r'.2 = r.2 ∧ ∃ k', r'.1 = { r.1 with keychain := k' } ∧ Alike serde r.1.keychain k'

theorem login_alike (h : Alike serde s.keychain k') (provider : String) :
    SameAnswer serde (login e.env s provider) (login e.env { s with keychain := k' } provider) := by
  rw [login, login]
  split
  · split
    · exact ⟨rfl, k', rfl, h⟩
    · exact ⟨rfl, k', rfl, h⟩
  · dsimp only
    split
    · exact ⟨rfl, k', rfl, h⟩
    · exact ⟨rfl, k', rfl, h⟩

theorem completeLogin_alike (h : Alike serde s.keychain k') (id : String) (code : Option String) :
    SameAnswer serde (completeLogin e.env s id code)
      (completeLogin e.env { s with keychain := k' } id code) := by
  rw [completeLogin, completeLogin]
  dsimp only
  cases s.pending id with
  | none => exact ⟨rfl, k', rfl, h⟩
  | some pending =>
    cases e.env.load with
    | some err => exact ⟨rfl, k', rfl, h⟩
    | none =>
      dsimp only
      cases credentialResult e.env pending code with
      | error answer => exact ⟨rfl, k', rfl, h⟩
      | ok result =>
        cases result with
        | error err => exact ⟨rfl, k', rfl, h⟩
        | ok credential => cases e.env.save <;> exact ⟨rfl, k', rfl, h⟩

theorem setKey_alike (h : Alike serde s.keychain k') (provider key : String) :
    SameAnswer serde (setKey app e s provider key)
      (setKey app e { s with keychain := k' } provider key) := by
  rw [setKey, setKey, Keychain.set, Keychain.set]
  cases e.env.faults.set (formatAccount (apiKeySlug (app.toLowercase provider))) with
  | none => exact ⟨rfl, _, rfl, h.update _ _⟩
  | some fault => cases fault <;> exact ⟨rfl, k', rfl, h⟩

theorem logout_alike (h : Alike serde s.keychain k') (provider userId : String) :
    SameAnswer serde (logout e.env s provider userId)
      (logout e.env { s with keychain := k' } provider userId) := by
  rw [logout, logout, deleteCredentials, deleteCredentials, Keychain.delete, Keychain.delete]
  cases e.env.faults.delete (formatAccount (credentialsKey provider userId)) with
  | none => exact ⟨rfl, _, rfl, h.update _ _⟩
  | some fault => cases fault <;> exact ⟨rfl, k', rfl, h⟩

/-- Something that may be taken away is there, or is not. -/
theorem isSome_ite_none_congr {c : Prop} [Decidable c] {o o' : Option String}
    (h : o.isSome = o'.isSome) :
    (if c then none else o).isSome = (if c then none else o').isSome := by
  split
  · rfl
  · exact h

/-- Whether there is a credential for a provider does not depend on the secrets. -/
theorem configuredProviders_alike (h : Alike app.serde s.keychain k') :
    configuredProviders app e { s with keychain := k' } = configuredProviders app e s := by
  rw [configuredProviders, configuredProviders]
  refine List.filter_congr fun p _ ↦ ?_
  rw [Resolution.providerHasSessionAuth, Resolution.providerHasSessionAuth,
    Resolution.resolveSessionAuthToken_eq, Resolution.resolveSessionAuthToken_eq,
    providerOauthAccessToken_eq_slotToken, providerOauthAccessToken_eq_slotToken,
    Resolution.storedKey_eq, Resolution.storedKey_eq]
  simp only [Option.isSome_or]
  congr 2
  · exact isSome_ite_none_congr (h.usable _).symm
  · exact isSome_ite_none_congr (h.present _).symm

/-- Nor does whether there is a label for a new session. -/
theorem sessionLabel_alike (h : Alike serde s.keychain k') :
    sessionLabel e { s with keychain := k' } = sessionLabel e s := by
  have hpresent := h.present (formatAccount "anthropic-api-key")
  rw [sessionLabel, sessionLabel, Keychain.get, Keychain.get]
  cases e.vars "ANTHROPIC_API_KEY" with
  | some key => rfl
  | none =>
    cases e.env.faults.get (formatAccount "anthropic-api-key") with
    | some fault => cases fault <;> rfl
    | none =>
      dsimp only
      cases hk : s.keychain (formatAccount "anthropic-api-key") with
      | none => rw [(h.eq_none_iff _).mp hk]
      | some key =>
        rw [hk, Option.isSome_some, eq_comm, Option.isSome_iff_exists] at hpresent
        obtain ⟨key', hkey'⟩ := hpresent
        rw [hkey']
        rfl

variable (serde) in
/-- The response is the same, and so is the server afterwards, but for the secrets. -/
def SameResponse (r r' : State Cred W × Response) : Prop :=
  r'.2 = r.2 ∧ r'.1.rest = r.1.rest ∧
    ∃ k', r'.1.stores = { r.1.stores with keychain := k' } ∧ Alike serde r.1.stores.keychain k'

/-- The extractors do not know the keychain. -/
theorem extracted_alike {α : Type} {args : Except Response α}
    {handler handler' : α → Stores Cred × Answer} (h : Alike serde s.keychain k')
    (hhandler : ∀ a, args = .ok a → SameAnswer serde (handler a) (handler' a)) :
    SameResponse serde (extracted args s w handler)
      (extracted args { s with keychain := k' } w handler') := by
  cases args with
  | error response => exact ⟨rfl, rfl, k', rfl, h⟩
  | ok a =>
    obtain ⟨hanswer, k'', hstores, halike⟩ := hhandler a rfl
    exact ⟨congrArg respond hanswer, rfl, k'', hstores, halike⟩

/-- **The step, from two keychains that differ in their secrets.** -/
theorem run_alike (h : Alike app.serde s.keychain k') {handler : Handler}
    (hopen : ¬ handler.IsKeychain) (hharmless : Harmless app e s handler) :
    SameResponse app.serde (run app e s w handler)
      (run app e { s with keychain := k' } w handler) := by
  cases handler with
  | keychainGet => exact absurd (.inl rfl) hopen
  | keychainSet => exact absurd (.inr (.inl rfl)) hopen
  | keychainDelete => exact absurd (.inr (.inr rfl)) hopen
  | setKey => exact extracted_alike h fun a _ ↦ setKey_alike h a.1 a.2
  | getConfigured =>
    refine ⟨?_, rfl, k', rfl, h⟩
    dsimp only [run]
    rw [getConfigured, getConfigured, configuredProviders_alike h]
  | login => exact extracted_alike h fun a _ ↦ login_alike h a
  | completeLogin => exact extracted_alike h fun a _ ↦ completeLogin_alike h a.1 a.2
  | callback =>
    refine extracted_alike h fun a ha ↦ ?_
    obtain ⟨error, code, state⟩ := a
    obtain ⟨answer, hanswer⟩ := exists_callback_eq app.serde e.env s error code state
      (by rintro c st rfl rfl rfl; exact hharmless c st ha)
    have hself : callback app.serde e.env s error code state = (s, answer) :=
      hanswer s.keychain fun _ hnone ↦ hnone
    have hother := hanswer k' fun account hnone ↦ (h.eq_none_iff account).mp hnone
    dsimp only
    rw [hself, hother]
    exact ⟨rfl, k', rfl, h⟩
  | status => exact ⟨rfl, rfl, k', rfl, h⟩
  | logout => exact extracted_alike h fun a _ ↦ logout_alike h a.1 a.2
  | listModels =>
    dsimp only [run]
    rw [configuredProviders_alike h]
    exact ⟨rfl, rfl, k', rfl, h⟩
  | createSession =>
    dsimp only [run]
    rw [sessionLabel_alike h]
    exact ⟨rfl, rfl, k', rfl, h⟩
  | other name => exact ⟨rfl, rfl, k', rfl, h⟩

end Alike

/-! ## Requests without the token -/

section Closed

variable {Cred : Type u} {W : Type v} (app : App Cred W) (token : String)

/-- **What a request must not ask for**: nothing harmful, wherever it gets to. -/
def Allowed (st : State Cred W) (e : Event Cred) : Prop :=
  e.refusal = none → ∀ pattern route, patternOf e.request.path = some pattern →
    routeOf e.request.method pattern = some route →
      Harmless app e (st.stores.later e.env) route.handler

/-- **The keychain is closed** to the requests: afterwards it is the same, and the responses are the
same whatever the secrets in it are. -/
structure Closed (st : State Cred W) (es : List (Event Cred)) : Prop where
  unchanged : ∀ account, (serveAll app token st es).1.stores.keychain account =
    st.stores.keychain account
  hidden : ∀ k', Alike app.serde st.stores.keychain k' →
    (serveAll app token ⟨{ st.stores with keychain := k' }, st.rest⟩ es).2 =
      (serveAll app token st es).2

variable {app token} {e : Event Cred} {st : State Cred W} {k' : Keychain}

/-- A request without the token leaves the keychain as it is. -/
theorem serve_keychain (htoken : ¬ Authorized token e.request) (hallowed : Allowed app st e) :
    (serve app e token st).1.stores.keychain = st.stores.keychain := by
  rw [serve]
  dsimp only
  split
  · rfl
  rename_i hrefusal
  split
  · rfl
  rename_i pattern hpattern
  split
  · rfl
  rename_i hopen
  split
  · rfl
  rename_i route hroute
  have hnot := not_isKeychain_of_route hroute fun hprotected ↦
    hopen ⟨hprotected, mt provided_eq_some_iff.mp htoken⟩
  exact run_keychain hnot (hallowed hrefusal pattern route hpattern hroute)

/-- **A request without the token, from two keychains that differ in their secrets.** -/
theorem serve_alike (htoken : ¬ Authorized token e.request) (hallowed : Allowed app st e)
    (h : Alike app.serde st.stores.keychain k') :
    SameResponse app.serde (serve app e token st)
      (serve app e token ⟨{ st.stores with keychain := k' }, st.rest⟩) := by
  rw [serve, serve]
  dsimp only
  cases hrefusal : e.refusal with
  | some response => exact ⟨rfl, rfl, k', rfl, h⟩
  | none =>
    dsimp only
    cases hpattern : patternOf e.request.path with
    | none => exact ⟨rfl, rfl, k', rfl, h⟩
    | some pattern =>
      dsimp only
      split
      · exact ⟨rfl, rfl, k', rfl, h⟩
      · rename_i hopen
        cases hroute : routeOf e.request.method pattern with
        | none => exact ⟨rfl, rfl, k', rfl, h⟩
        | some route =>
          have hnot := not_isKeychain_of_route hroute fun hprotected ↦
            hopen ⟨hprotected, mt provided_eq_some_iff.mp htoken⟩
          have halike : Alike app.serde (st.stores.later e.env).keychain k' := h
          obtain ⟨hresponse, hrest, k'', hstores, hsame⟩ := run_alike (w := st.rest) halike hnot
            (hallowed hrefusal pattern route hpattern hroute)
          exact ⟨congrArg (·.to e.request.method) hresponse, hrest, k'', hstores, hsame⟩

end Closed

/-! ## An example -/

/-- A server with extractors that read nothing but an API key. -/
def exampleApp : App Unit Unit where
  agent := exampleAgent
  serde := exampleSerde
  toLowercase := id
  extract :=
    { keychainSet := fun _ ↦ .error ⟨422, .empty⟩
      setKey := fun r ↦ .ok ("anthropic", r.body)
      login := fun _ ↦ .error ⟨400, .empty⟩
      completeLogin := fun _ ↦ .error ⟨422, .empty⟩
      callback := fun _ ↦ .error ⟨400, .empty⟩
      logout := fun _ ↦ .error ⟨422, .empty⟩ }
  rest := ⟨fun _ _ w ↦ (w, ⟨404, .empty⟩), fun _ _ w ↦ (w, ⟨200, .empty⟩),
    fun _ _ w ↦ (w, ⟨201, .empty⟩)⟩

/-- A request without the token. -/
def exampleEvent (method : Method) (path : List String) (body : String) : Event Unit where
  request := ⟨method, path, none, "", body⟩
  env := exampleEnv
  refusal := none
  vars _ := none
  label := "session-1"

/-- Nothing is stored. -/
def exampleState : State Unit Unit := ⟨exampleStores, ()⟩

theorem not_authorized_exampleEvent {token : String} {method : Method} {path : List String}
    {body : String} : ¬ Authorized token (exampleEvent method path body).request :=
  (Option.some_ne_none _).symm

end WorkWithMe.Server.Router
