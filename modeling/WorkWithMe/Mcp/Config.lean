import WorkWithMe.Lib.JsonFile
import WorkWithMe.Lib.Machine
import WorkWithMe.Mcp.Url
import WorkWithMe.Server.AppState

/-!
# The configuration of MCP servers

`mcp.json` holds the MCP servers under `mcpServers`, by slug.  Four endpoints write it: two of them
set one entry through `set_mcp_server`, which runs the address filter over the `url` of the entry
first, one removes an entry, and `POST /api/mcp` writes the document it is given.

A write by index into something that is not an object makes the handler panic; the file is then as
it was and there is no answer, which is what `none` stands for in the results below.

* `Safe` says that every entry with a `url` has one that the filter accepts.
* `safe_withServer` and `safe_withoutServer` say that an entry can be set, if its `url` is accepted,
  and removed.
* `safe_iff_forall_mem` says for which sequences of calls the stored document is safe all along:
  those in which every document that `POST /api/mcp` stores is.
* `not_safe_of_exec` is a call of it that stores another one.
-/

set_option autoImplicit false

namespace WorkWithMe.Mcp

open JsonFile Server

/-! ## The file -/

section File

variable (f : Faults)

/-- `load_mcp_config`. -/
def loadMcpConfig (file : Option Contents) : Except String Json :=
  match file with
  | none => .ok (.obj [("mcpServers", .obj [])])
  | some c => readFile f "Failed to read mcp.json: " "Invalid mcp.json: " c

/-- `save_mcp_config`. -/
def saveMcpConfig (config : Json) (file : Option Contents) : Except String Unit × Option Contents :=
  writeFile f "Failed to create mcp directory: " "Failed to write mcp.json: " config file

/-- The text under `url`, if there is one. -/
def serverUrl (server : Json) : Option String := (server.get "url").bind Json.asStr

/-- The document with an entry set; `none` is a panic. -/
def withServer (slug : String) (server config : Json) : Option Json :=
  (if (config.index "mcpServers").isObject then some config
    else config.setIndex "mcpServers" (.obj [])).bind fun config ↦
      ((config.index "mcpServers").setIndex slug server).bind (config.setIndex "mcpServers")

/-- `set_mcp_server`. -/
def setMcpServer (slug : String) (server : Json) (file : Option Contents) :
    Option (Except String Unit) × Option Contents :=
  match (serverUrl server).elim (.ok ()) validateMcpUrl with
  | .error e => (some (.error e), file)
  | .ok _ =>
    match loadMcpConfig f file with
    | .error e => (some (.error e), file)
    | .ok config =>
      match withServer slug server config with
      | none => (none, file)
      | some config => ((saveMcpConfig f config file).map some id)

/-- Is the document `null`? -/
def isNull : Json → Bool
  | .null => true
  | _ => false

/-- The document with an entry removed; `none` is a panic. -/
def withoutServer (slug : String) (config : Json) : Option Json :=
  config.setIndex "mcpServers" ((config.index "mcpServers").remove slug)

/-- `remove_mcp_server`. -/
def removeMcpServer (slug : String) (file : Option Contents) :
    Option (Except String Bool) × Option Contents :=
  match loadMcpConfig f file with
  | .error e => (some (.error e), file)
  | .ok config =>
    if isNull ((config.index "mcpServers").index slug) then (some (.ok false), file)
    else match withoutServer slug config with
      | none => (none, file)
      | some config =>
        ((saveMcpConfig f config file).map (fun r ↦ some (r.map fun _ ↦ true)) id)

/-! ## The endpoints -/

/-- `update_config`. -/
def updateConfig (config : Json) (file : Option Contents) : Option Response × Option Contents :=
  match saveMcpConfig f config file with
  | (.ok _, file) => (some ⟨200, .obj [("success", .bool true)]⟩, file)
  | (.error e, file) => (some (failure 500 e), file)

/-- The slug that `add` reads from its body. -/
def payloadSlug (payload : Json) : String := ((payload.get "slug").bind Json.asStr).getD ""

/-- `add`. -/
def add (payload : Json) (file : Option Contents) : Option Response × Option Contents :=
  if payloadSlug payload = "" then (some (failure 400 "slug is required"), file)
  else match setMcpServer f (payloadSlug payload) payload file with
    | (some (.ok _), file) => (some ⟨200, .obj [("success", .bool true),
        ("connector_id", .str ("remote-mcp/" ++ payloadSlug payload))]⟩, file)
    | (some (.error e), file) => (some (failure 500 e), file)
    | (none, file) => (none, file)

/-- `update`. -/
def update (slug : String) (config : Json) (file : Option Contents) :
    Option Response × Option Contents :=
  match setMcpServer f slug config file with
  | (some (.ok _), file) => (some ⟨200, .obj [("success", .bool true)]⟩, file)
  | (some (.error e), file) => (some (failure 500 e), file)
  | (none, file) => (none, file)

/-- `remove`. -/
def remove (slug : String) (file : Option Contents) : Option Response × Option Contents :=
  match removeMcpServer f slug file with
  | (some (.ok true), file) =>
    (some ⟨200, .obj [("success", .bool true), ("deleted", .bool true)]⟩, file)
  | (some (.ok false), file) => (some (failure 404 "Connector not found"), file)
  | (some (.error e), file) => (some (failure 500 e), file)
  | (none, file) => (none, file)

end File

/-- A call that writes `mcp.json`. -/
inductive ConfigCall where
  /-- `POST /api/mcp`. -/
  | updateConfig (config : Json)
  /-- `POST /api/connectors/remote-mcp`. -/
  | add (payload : Json)
  /-- `PUT /api/connectors/remote-mcp/{slug}`. -/
  | update (slug : String) (config : Json)
  /-- `DELETE /api/connectors/remote-mcp/{slug}`. -/
  | remove (slug : String)

/-- Answer one call. -/
def answer (f : Faults) (file : Option Contents) : ConfigCall → Option Response × Option Contents
  | .updateConfig config => updateConfig f config file
  | .add payload => add f payload file
  | .update slug config => update f slug config file
  | .remove slug => remove f slug file

/-- One call, as a step. -/
def configStep (file : Option Contents) (a : Faults × ConfigCall) : Option (Option Contents) :=
  some (answer a.1 file a.2).2

/-! ## The law -/

/-- The entry of a server. -/
def serverEntry (config : Json) (slug : String) : Option Json :=
  (config.get "mcpServers").bind fun servers ↦ servers.get slug

/-- **Every entry with a `url` has one that the filter accepts.** -/
def Safe (config : Json) : Prop :=
  ∀ slug server url, serverEntry config slug = some server → serverUrl server = some url →
    validateMcpUrl url = .ok ()

/-- The file holds no document that is not safe. -/
def SafeFile (file : Option Contents) : Prop := ∀ config, file = some (.doc config) → Safe config

/-- The condition on a call: what `POST /api/mcp` stores is safe. -/
def StoresSafe (a : Faults × ConfigCall) : Prop :=
  ∀ config, a.2 = .updateConfig config → a.1.dir = none → a.1.write = none → Safe config

/-! ## What becomes of the entries -/

section Entries

variable {config config' server : Json} {slug : String}

/-- Setting an entry ends by storing the servers with the entry in place of what was there; where
that was not an object, there were no entries. -/
theorem exists_of_withServer (hw : withServer slug server config = some config') :
    ∃ servers, config'.get "mcpServers" = some servers ∧ servers.get slug = some server ∧
      ∀ j, j ≠ slug → servers.get j = serverEntry config j := by
  obtain ⟨base, hbase, hw⟩ := Option.bind_eq_some_iff.mp hw
  obtain ⟨servers, hservers, hw⟩ := Option.bind_eq_some_iff.mp hw
  refine ⟨servers, Json.get_setIndex_self hw, Json.get_setIndex_self hservers, fun j hj ↦ ?_⟩
  rw [Json.get_setIndex_of_ne hj hservers]
  split at hbase
  · obtain rfl := Option.some.inj hbase
    exact Json.get_index ..
  · rename_i hobject
    have hnone : serverEntry config j = none := by
      rw [serverEntry, ← Json.get_index]
      exact Json.get_eq_none hobject j
    rw [hnone, Json.index, Json.get_setIndex_self hbase]
    rfl

theorem serverEntry_withServer_self (hw : withServer slug server config = some config') :
    serverEntry config' slug = some server := by
  obtain ⟨servers, hservers, hself, -⟩ := exists_of_withServer hw
  rw [serverEntry, hservers, Option.bind_some, hself]

theorem serverEntry_withServer_of_ne {j : String} (hj : j ≠ slug)
    (hw : withServer slug server config = some config') :
    serverEntry config' j = serverEntry config j := by
  obtain ⟨servers, hservers, -, hother⟩ := exists_of_withServer hw
  rw [serverEntry, hservers, Option.bind_some, hother j hj]

theorem serverEntry_withoutServer_self (hw : withoutServer slug config = some config') :
    serverEntry config' slug = none := by
  rw [serverEntry, Json.get_setIndex_self hw, Option.bind_some, Json.get_remove_self]

theorem serverEntry_withoutServer_of_ne {j : String} (hj : j ≠ slug)
    (hw : withoutServer slug config = some config') :
    serverEntry config' j = serverEntry config j := by
  rw [serverEntry, Json.get_setIndex_self hw, Option.bind_some, Json.get_remove_of_ne _ hj,
    Json.get_index]
  rfl

end Entries

/-! ## What keeps a document safe -/

section Safe

variable {config config' server : Json} {slug : String}

theorem safe_new : Safe (.obj [("mcpServers", .obj [])]) := by
  rintro slug server url hserver -
  simp [serverEntry] at hserver

/-- The servers of a document are the ones of another, but for one whose `url` is accepted. -/
theorem Safe.of_entry (h : Safe config) (slug : String)
    (hother : ∀ j server, serverEntry config' j = some server → j ≠ slug →
      serverEntry config j = some server)
    (hself : ∀ server url, serverEntry config' slug = some server → serverUrl server = some url →
      validateMcpUrl url = .ok ()) : Safe config' := by
  intro j server url hserver hurl
  by_cases hj : j = slug
  · exact hself server url (hj ▸ hserver) hurl
  · exact h j server url (hother j server hserver hj) hurl

/-- **An entry can be set** if its `url` is accepted. -/
theorem safe_withServer (h : Safe config) (hw : withServer slug server config = some config')
    (hurl : ∀ url, serverUrl server = some url → validateMcpUrl url = .ok ()) : Safe config' := by
  refine h.of_entry slug (fun j server' hj hne ↦ ?_) fun server' url hs hu ↦ ?_
  · rwa [serverEntry_withServer_of_ne hne hw] at hj
  · rw [serverEntry_withServer_self hw] at hs
    obtain rfl := Option.some.inj hs
    exact hurl url hu

/-- **An entry can be removed.** -/
theorem safe_withoutServer (h : Safe config) (hw : withoutServer slug config = some config') :
    Safe config' := by
  refine h.of_entry slug (fun j server' hj hne ↦ ?_) fun server' url hs hu ↦ ?_
  · rwa [serverEntry_withoutServer_of_ne hne hw] at hj
  · rw [serverEntry_withoutServer_self hw] at hs
    cases hs

end Safe

/-! ## The calls -/

section Calls

variable {f : Faults} {file : Option Contents} {slug : String} {server config : Json}

theorem safe_of_loadMcpConfig (h : SafeFile file) (hload : loadMcpConfig f file = .ok config) :
    Safe config := by
  cases file with
  | none =>
    obtain rfl := Except.ok.inj hload
    exact safe_new
  | some c => exact h config (congrArg some (readFile_eq_ok_iff.mp hload).2)

theorem safeFile_doc : SafeFile (some (.doc config)) ↔ Safe config := by
  constructor
  · exact fun h ↦ h config rfl
  · rintro h config' hc
    obtain rfl := Contents.doc.inj (Option.some.inj hc)
    exact h

/-- `save_mcp_config` keeps the law if and only if it stores a safe document. -/
theorem safeFile_saveMcpConfig_iff (h : SafeFile file) :
    SafeFile (saveMcpConfig f config file).2 ↔ (f.dir = none → f.write = none → Safe config) := by
  rw [saveMcpConfig]
  obtain ⟨hdir, hwrite, hok⟩ | ⟨hf, e, he⟩ := writeFile_cases f "Failed to create mcp directory: "
    "Failed to write mcp.json: " config file
  · rw [hok, safeFile_doc]
    exact ⟨fun hs _ _ ↦ hs, fun hs ↦ hs hdir hwrite⟩
  · rw [he]
    exact iff_of_true h fun hdir hwrite ↦ absurd ⟨hdir, hwrite⟩ hf

/-- `set_mcp_server` keeps the law. -/
theorem safeFile_setMcpServer (h : SafeFile file) :
    SafeFile (setMcpServer f slug server file).2 := by
  rw [setMcpServer]
  split
  · exact h
  · rename_i hvalid
    have hurl : ∀ url, serverUrl server = some url → validateMcpUrl url = .ok () := by
      intro url hu
      simpa [hu] using hvalid
    split
    · exact h
    · rename_i config hload
      split
      · exact h
      · rename_i config' hw
        exact (safeFile_saveMcpConfig_iff h).mpr fun _ _ ↦
          safe_withServer (safe_of_loadMcpConfig h hload) hw hurl

/-- `remove_mcp_server` keeps the law. -/
theorem safeFile_removeMcpServer (h : SafeFile file) :
    SafeFile (removeMcpServer f slug file).2 := by
  rw [removeMcpServer]
  split
  · exact h
  · rename_i config hload
    split
    · exact h
    · split
      · exact h
      · rename_i config' hw
        exact (safeFile_saveMcpConfig_iff h).mpr fun _ _ ↦
          safe_withoutServer (safe_of_loadMcpConfig h hload) hw

theorem updateConfig_file : (updateConfig f config file).2 = (saveMcpConfig f config file).2 := by
  rw [updateConfig]
  split <;> simp only [*]

theorem update_file : (update f slug config file).2 = (setMcpServer f slug config file).2 := by
  rw [update]
  split <;> simp only [*]

theorem remove_file : (remove f slug file).2 = (removeMcpServer f slug file).2 := by
  rw [remove]
  split <;> simp only [*]

/-- `add` leaves the file alone or does what `set_mcp_server` does. -/
theorem add_file (f : Faults) (payload : Json) (file : Option Contents) :
    (add f payload file).2 = file ∨ (add f payload file).2 =
       (setMcpServer f (payloadSlug payload) payload file).2 := by
  rw [add]
  split
  · exact Or.inl rfl
  · refine Or.inr ?_
    split <;> simp only [*]

/-- **A call keeps the law if and only if it does not store a document that breaks it.** -/
theorem safeFile_step_iff {file' : Option Contents} {a : Faults × ConfigCall} (h : SafeFile file)
    (hs : configStep file a = some file') : SafeFile file' ↔ StoresSafe a := by
  obtain ⟨f, call⟩ := a
  obtain rfl := Option.some.inj hs
  cases call with
  | updateConfig config =>
    rw [answer, updateConfig_file, safeFile_saveMcpConfig_iff h]
    constructor
    · rintro hsafe config' hc
      cases hc
      exact hsafe
    · exact fun hsafe ↦ hsafe config rfl
  | add payload =>
    refine iff_of_true ?_ fun config hc ↦ by cases hc
    obtain hfile | hfile := add_file f payload file
    · rw [answer, hfile]
      exact h
    · rw [answer, hfile]
      exact safeFile_setMcpServer h
  | update slug config =>
    refine iff_of_true ?_ fun config hc ↦ by cases hc
    rw [answer, update_file]
    exact safeFile_setMcpServer h
  | remove slug =>
    refine iff_of_true ?_ fun config hc ↦ by cases hc
    rw [answer, remove_file]
    exact safeFile_removeMcpServer h

end Calls

/-! ## The law over runs -/

/-- **The configuration is safe all along a run**, from no file, if and only if every document that
`POST /api/mcp` stores is safe. -/
theorem safe_iff_forall_mem (calls : List (Faults × ConfigCall)) :
    (∀ pre post file, calls = pre ++ post → Machine.exec configStep none pre = some file →
      SafeFile file) ↔ ∀ a ∈ calls, StoresSafe a := by
  obtain ⟨final, hrun⟩ : ∃ final, Machine.exec configStep none calls = some final :=
    Machine.exists_exec_eq_some (fun _ _ ↦ ⟨_, rfl⟩) none calls
  have hnone : SafeFile none := fun _ h ↦ by cases h
  rw [← Machine.guarded_iff_forall_mem hrun]
  exact Machine.inv_iff_guarded (fun _ _ _ h hs ↦ safeFile_step_iff h hs) hnone hrun

/-- **The law fails without the condition.**  `POST /api/mcp` stores the address of a server on the
machine itself. -/
theorem not_safe_of_exec :
    ¬ ∀ (calls : List (Faults × ConfigCall)) (file : Option Contents),
      Machine.exec configStep none calls = some file → SafeFile file := by
  intro hall
  have h := hall [(.none, .updateConfig (.obj [("mcpServers",
    .obj [("local", .obj [("url", .str "http://127.0.0.1:8080/")])])]))] _ rfl
  have hvalid := h _ rfl "local" _ "http://127.0.0.1:8080/" rfl rfl
  exact absurd (validateMcpUrl_eq_ok_iff.mp hvalid).1 (by decide)

end WorkWithMe.Mcp
