import WorkWithMe.Lib.Index
import WorkWithMe.Lib.Machine

/-!
# The plugins

The plugins are the folders of `~/.pi/plugins` that have a `plugin.toml`, and `REGISTRY` is a map of
them by the id that is written in there.  The names of the folders are something else: a folder may
hold the manifest of any id, and two folders may hold that of the same id.

The server starts with `init_plugins`, which enters what it finds; the registry and the folders
then change together in `install_plugin` and `uninstall_plugin`.  The manifest of an installed
plugin is the same for every download so far, and so is its folder.

* `Consistent` is what is promised of the registry and the folders, and `consistent_iff_agrees` says
  that it is the agreement of an index with its store.
* `consistent_init` says that a scan of all the folders makes them agree.
* `step_iff` says for one call when it keeps the promise, and `kept_iff_guarded` for a run
  that starts with a scan: if and only if no folder of another plugin is installed over, and every
  plugin that is uninstalled has one folder, and that folder can be removed.
-/

set_option autoImplicit false

namespace WorkWithMe.Server.Plugins

/-! ## Plugins and folders -/

/-- `PluginManifest`. -/
structure PluginManifest where
  /-- The id. -/
  id : String
  /-- The name. -/
  name : String
  /-- The version. -/
  version : String
  /-- The description. -/
  description : String
  /-- The author. -/
  author : String
  /-- The license. -/
  license : String
  /-- The capabilities. -/
  capabilities : List String
  /-- `entry_point`. -/
  entryPoint : String
  /-- The permissions. -/
  permissions : List String

/-- `Plugin`. -/
structure Plugin where
  /-- The manifest. -/
  manifest : PluginManifest
  /-- The path, by the name of the folder in the plugins directory. -/
  path : String
  /-- May it be called? -/
  enabled : Bool
  /-- Is it loaded? -/
  loaded : Bool

/-- An entry of the plugins directory. -/
inductive Entry where
  /-- It is not a directory. -/
  | file
  /-- It is one, with a `plugin.toml` or without, which `load_manifest` can make out or not. -/
  | folder (toml : Option (Except String PluginManifest))

/-- The plugins directory, by the names in it, and `REGISTRY`. -/
structure State where
  /-- What is in the plugins directory. -/
  dir : String → Option Entry
  /-- `REGISTRY`. -/
  registry : String → Option Plugin

/-- The manifest that a scan loads from an entry. -/
def Entry.manifest : Entry → Option PluginManifest
  | .folder (some (.ok manifest)) => some manifest
  | _ => none

/-! ## The functions -/

/-- One round of the loop of `scan_plugins`. -/
def scanEntry (dir : String → Option Entry) (registry : String → Option Plugin) (name : String) :
    String → Option Plugin :=
  ((dir name).bind Entry.manifest).elim registry fun manifest ↦
    Function.update registry manifest.id (some ⟨manifest, name, true, false⟩)

/-- `scan_plugins`, with the names in the order in which `read_dir` has them. -/
def scanPlugins (order : List String) (s : State) : State :=
  { s with registry := order.foldl (scanEntry s.dir) s.registry }

/-- `extract_manifest_from_wasm`, which does not look at the bytes. -/
def extractManifestFromWasm : PluginManifest :=
  ⟨"placeholder", "Placeholder Plugin", "0.1.0", "Placeholder plugin", "Unknown", "MIT", [], "init",
    []⟩

/-- The operations of `install_plugin` that fail, with their texts.  A write that fails has not
opened its file. -/
structure InstallFaults where
  /-- `download_plugin_wasm`. -/
  download : Option String
  /-- `create_dir_all`. -/
  dir : Option String
  /-- The write of `plugin.wasm`. -/
  wasm : Option String
  /-- The write of `plugin.toml`. -/
  manifest : Option String

/-- All goes well. -/
def InstallFaults.none : InstallFaults := ⟨.none, .none, .none, .none⟩

/-- `create_dir_all` of a folder in the plugins directory, and what is in its `plugin.toml`. -/
def createDir (fault : Option String) (entry : Option Entry) :
    Except String (Option (Except String PluginManifest)) :=
  match fault, entry with
  | some e, _ => .error e
  | none, some .file => .error "File exists (os error 17)"
  | none, some (.folder toml) => .ok toml
  | none, none => .ok none

/-- `install_plugin`. -/
def installPlugin (faults : InstallFaults) (s : State) : Except String Plugin × State :=
  let manifest := extractManifestFromWasm
  let plugin : Plugin := ⟨manifest, manifest.id, true, false⟩
  match faults.download, createDir faults.dir (s.dir manifest.id) with
  | some e, _ => (.error e, s)
  | none, .error e => (.error ("Failed to create plugin directory: " ++ e), s)
  | none, .ok toml =>
    let made := { s with dir := Function.update s.dir manifest.id (some (.folder toml)) }
    match faults.wasm, faults.manifest with
    | some e, _ => (.error ("Failed to save plugin WASM: " ++ e), made)
    | none, some e => (.error ("Failed to save manifest: " ++ e), made)
    | none, none => (.ok plugin,
        { dir := Function.update s.dir manifest.id (some (.folder (some (.ok manifest))))
          registry := Function.update s.registry manifest.id (some plugin) })

/-- Change a plugin in the registry. -/
def updatePlugin (id : String) (f : Plugin → Plugin) (s : State) : Except String Unit × State :=
  match s.registry id with
  | some plugin => (.ok (), { s with registry := Function.update s.registry id (some (f plugin)) })
  | none => (.error ("Plugin not found: " ++ id), s)

/-- `enable_plugin`. -/
def enablePlugin (id : String) : State → Except String Unit × State :=
  updatePlugin id fun plugin ↦ { plugin with enabled := true }

/-- `disable_plugin`. -/
def disablePlugin (id : String) : State → Except String Unit × State :=
  updatePlugin id fun plugin ↦ { plugin with enabled := false, loaded := false }

/-- How a removal fails half way: its text, and whether `plugin.toml` is still there. -/
structure RemovalFault where
  /-- The text. -/
  text : String
  /-- Is `plugin.toml` still there? -/
  keepsManifest : Bool

/-- `remove_dir_all`, and what it leaves. -/
def removeDirAll (fault : Option RemovalFault) (entry : Option Entry) :
    Except String Unit × Option Entry :=
  match entry, fault with
  | none, _ => (.error "No such file or directory (os error 2)", none)
  | some .file, _ => (.error "Not a directory (os error 20)", some .file)
  | some (.folder _), none => (.ok (), none)
  | some (.folder toml), some f =>
    (.error f.text, some (.folder (if f.keepsManifest then toml else none)))

/-- `uninstall_plugin`. -/
def uninstallPlugin (id : String) (fault : Option RemovalFault) (s : State) :
    Except String Unit × State :=
  match s.registry id with
  | some plugin =>
    let removed := removeDirAll fault (s.dir plugin.path)
    (removed.1.mapError ("Failed to delete plugin directory: " ++ ·),
      { dir := Function.update s.dir plugin.path removed.2
        registry := Function.update s.registry id none })
  | none => (.error ("Plugin not found: " ++ id), s)

/-! ## Runs -/

/-- A call, with what the environment contributes to it. -/
inductive Call where
  /-- `init_plugins`, with the names in the order in which `read_dir` has them. -/
  | init (order : List String)
  /-- `install_plugin`. -/
  | install (faults : InstallFaults)
  /-- `enable_plugin`. -/
  | enable (id : String)
  /-- `disable_plugin`. -/
  | disable (id : String)
  /-- `uninstall_plugin`. -/
  | uninstall (id : String) (fault : Option RemovalFault)

/-- What is left of a call. -/
def Call.perform (s : State) : Call → State
  | .init order => scanPlugins order s
  | .install faults => (installPlugin faults s).2
  | .enable id => (enablePlugin id s).2
  | .disable id => (disablePlugin id s).2
  | .uninstall id fault => (uninstallPlugin id fault s).2

/-- One call. -/
def step (s : State) (call : Call) : Option State := some (call.perform s)

/-- `read_dir` has all the names there are. -/
def Lists (s : State) : Call → Prop
  | .init order => ∀ name, name ∈ order ↔ (s.dir name).isSome
  | _ => True

/-- The state in which the server starts. -/
def State.fresh (dir : String → Option Entry) : State := ⟨dir, fun _ ↦ none⟩

/-! ## The promise -/

/-- The id that a scan finds in a folder. -/
def State.idAt (s : State) (name : String) : Option String :=
  ((s.dir name).bind Entry.manifest).map PluginManifest.id

/-- **The promise** about the registry and the folders. -/
structure Consistent (s : State) : Prop where
  /-- The plugins are those that a scan finds. -/
  ids : ∀ id, (s.registry id).isSome ↔ ∃ name, s.idAt name = some id
  /-- The path of each of them has a manifest with its id. -/
  paths : ∀ id plugin, s.registry id = some plugin → s.idAt plugin.path = some id

/-- An `uninstall_plugin` that returns `Err` leaves the registry as it was. -/
def KeepsOnError (s : State) : Call → Prop
  | .uninstall id fault => (∃ e, (uninstallPlugin id fault s).1 = .error e) →
      (uninstallPlugin id fault s).2.registry = s.registry
  | _ => True

/-- The call installs over no folder of another plugin, and uninstalls only a plugin that has one
folder, which can be removed. -/
def Allowed (s : State) : Call → Prop
  | .install faults => faults = .none → ∀ id plugin, s.registry id = some plugin →
      plugin.path = extractManifestFromWasm.id → id = extractManifestFromWasm.id
  | .uninstall id fault => ∀ plugin, s.registry id = some plugin →
      fault = none ∧ ∀ name, s.idAt name = some id → name = plugin.path
  | _ => True

/-! ## The registry as an index of the folders -/

/-- The place of a plugin, by its id. -/
def State.index (s : State) (id : String) : Option String := (s.registry id).map Plugin.path

theorem consistent_iff_agrees {s : State} : Consistent s ↔ Index.Agrees s.idAt s.index := by
  rw [Index.agrees_iff]
  constructor
  · intro h
    refine ⟨fun id ↦ by rw [State.index, Option.isSome_map, h.ids id], fun id name hname ↦ ?_⟩
    obtain ⟨plugin, hplugin, rfl⟩ := Option.map_eq_some_iff.mp hname
    exact h.paths id plugin hplugin
  · rintro ⟨hids, hpaths⟩
    refine ⟨fun id ↦ by rw [← hids id, State.index, Option.isSome_map], fun id plugin hplugin ↦ ?_⟩
    exact hpaths id plugin.path (by rw [State.index, hplugin]; rfl)

section Views

variable {dir : String → Option Entry} {registry : String → Option Plugin} {name id : String}

/-- The ids in the folders, once an entry has been written. -/
theorem idAt_update (entry : Option Entry) :
    (⟨Function.update dir name entry, registry⟩ : State).idAt =
      Function.update (⟨dir, registry⟩ : State).idAt name
        ((entry.bind Entry.manifest).map PluginManifest.id) :=
  Function.comp_update (fun e : Option Entry ↦ (e.bind Entry.manifest).map PluginManifest.id) ..

/-- The places of the plugins, once the registry has been written. -/
theorem index_update (plugin : Option Plugin) :
    (⟨dir, Function.update registry id plugin⟩ : State).index =
      Function.update (⟨dir, registry⟩ : State).index id (plugin.map Plugin.path) :=
  Function.comp_update (Option.map Plugin.path) ..

/-- A round of the scan enters what it finds. -/
theorem index_scanEntry (name : String) :
    (⟨dir, scanEntry dir registry name⟩ : State).index =
      Index.enter (⟨dir, registry⟩ : State).idAt (⟨dir, registry⟩ : State).index name := by
  rw [Index.enter, scanEntry, State.idAt]
  cases (dir name).bind Entry.manifest with
  | none => rfl
  | some manifest => exact index_update _

/-- A scan enters what it finds. -/
theorem index_scanPlugins (order : List String) :
    (scanPlugins order ⟨dir, registry⟩).index =
      Index.scan (⟨dir, registry⟩ : State).idAt (⟨dir, registry⟩ : State).index order := by
  induction order generalizing registry with
  | nil => rfl
  | cons name order ih =>
    rw [Index.scan, List.foldl_cons, ← index_scanEntry name]
    exact @ih (scanEntry dir registry name)

end Views

section Calls

variable {s : State} {id : String}

theorem idAt_eq_none_of_dir {name : String} (h : s.dir name = none) : s.idAt name = none := by
  rw [State.idAt, h]
  rfl

/-- Where a scan has all the names, it has the folders with a manifest. -/
theorem mem_of_lists {order : List String} (h : Lists s (.init order)) {name : String}
    (hname : (s.idAt name).isSome) : name ∈ order := by
  refine (h name).mpr ?_
  rw [Option.isSome_iff_ne_none]
  intro hnone
  rw [idAt_eq_none_of_dir hnone] at hname
  cases hname

/-- **A scan of all the folders makes the registry and the folders agree**, where the registry has
no stale entry. -/
theorem agrees_scanPlugins {order : List String} (hs : Index.Sound s.idAt s.index)
    (h : Lists s (.init order)) :
    Index.Agrees (scanPlugins order s).idAt (scanPlugins order s).index := by
  rw [index_scanPlugins]
  exact hs.agrees_scan fun name ↦ mem_of_lists h

/-- The registry of a fresh scan has the ids that are in the folders. -/
theorem consistent_init {dir : String → Option Entry} {order : List String}
    (h : Lists (.fresh dir) (.init order)) : Consistent (scanPlugins order (.fresh dir)) :=
  consistent_iff_agrees.mpr (agrees_scanPlugins (fun _ _ hk ↦ nomatch hk) h)

/-- The promise in terms of a fresh scan. -/
theorem Consistent.isSome_iff_scan (h : Consistent s) {order : List String}
    (horder : Lists s (.init order)) (id : String) : (s.registry id).isSome ↔
      ((scanPlugins order (.fresh s.dir)).registry id).isSome :=
  (h.ids id).trans ((consistent_init (show Lists (.fresh s.dir) _ from horder)).ids id).symm

/-- A change that leaves a plugin where it is. -/
theorem index_updatePlugin {f : Plugin → Plugin} (hf : ∀ plugin, (f plugin).path = plugin.path) :
    (updatePlugin id f s).2.index = s.index := by
  rw [updatePlugin]
  cases hp : s.registry id with
  | none => rfl
  | some plugin =>
    have hindex : s.index id = some plugin.path := by rw [State.index, hp]; rfl
    refine (index_update _).trans ?_
    rw [Option.map_some, hf, ← hindex]
    exact Function.update_eq_self ..

theorem dir_updatePlugin (f : Plugin → Plugin) : (updatePlugin id f s).2.dir = s.dir := by
  rw [updatePlugin]
  cases s.registry id <;> rfl

/-- A change of a plugin is not seen in the registry as an index. -/
theorem agrees_updatePlugin {f : Plugin → Plugin} (hf : ∀ plugin, (f plugin).path = plugin.path) :
    Index.Agrees (updatePlugin id f s).2.idAt (updatePlugin id f s).2.index ↔
      Index.Agrees s.idAt s.index := by
  have hid : (updatePlugin id f s).2.idAt = s.idAt :=
    congrArg (fun dir : String → Option Entry ↦ (⟨dir, s.registry⟩ : State).idAt)
      (dir_updatePlugin f)
  rw [hid, index_updatePlugin hf]

/-- What is in `plugin.toml` after `create_dir_all` is what was in it. -/
theorem idAt_of_createDir_ok {fault : Option String} {name : String}
    {toml : Option (Except String PluginManifest)} (h : createDir fault (s.dir name) = .ok toml) :
    (Entry.folder toml).manifest.map PluginManifest.id = s.idAt name := by
  rw [State.idAt]
  cases fault with
  | some e => cases h
  | none =>
    cases hentry : s.dir name with
    | none =>
      rw [hentry] at h
      cases h
      rfl
    | some entry =>
      rw [hentry] at h
      cases entry with
      | file => cases h
      | folder t =>
        cases h
        rfl

/-- `create_dir_all` fails of itself only where there is a file in the way. -/
theorem idAt_of_createDir_error {name e : String} (h : createDir none (s.dir name) = .error e) :
    s.idAt name = none := by
  rw [State.idAt]
  cases hentry : s.dir name with
  | none => rfl
  | some entry =>
    rw [hentry] at h
    cases entry with
    | file => rfl
    | folder toml => cases h

/-- Where the registry and the ids in the folders stay as they were. -/
theorem agrees_congr {t : State} (hreg : t.registry = s.registry) (hid : t.idAt = s.idAt) :
    Index.Agrees t.idAt t.index ↔ Index.Agrees s.idAt s.index := by
  have hindex : t.index = s.index := congrArg (Option.map Plugin.path ∘ ·) hreg
  rw [hid, hindex]

/-- **What an installation can do**: write and enter the plugin, or leave the ids in the folders and
the registry as they were, which it does without a fault only where there is no folder to write. -/
theorem installPlugin_cases (faults : InstallFaults) (s : State) :
    (faults = .none ∧ (installPlugin faults s).2 =
        ⟨Function.update s.dir extractManifestFromWasm.id
            (some (.folder (some (.ok extractManifestFromWasm)))),
          Function.update s.registry extractManifestFromWasm.id
            (some ⟨extractManifestFromWasm, extractManifestFromWasm.id, true, false⟩)⟩) ∨
      ((faults = .none → s.idAt extractManifestFromWasm.id = none) ∧
        (installPlugin faults s).2.registry = s.registry ∧
        (installPlugin faults s).2.idAt = s.idAt) := by
  obtain ⟨download, dir, wasm, manifest⟩ := faults
  rw [installPlugin]
  cases download with
  | some e => exact Or.inr ⟨(nomatch ·), rfl, rfl⟩
  | none =>
    cases dir with
    | some e => exact Or.inr ⟨(nomatch ·), rfl, rfl⟩
    | none =>
      cases hdir : createDir none (s.dir extractManifestFromWasm.id) with
      | error e => exact Or.inr ⟨fun _ ↦ idAt_of_createDir_error hdir, rfl, rfl⟩
      | ok toml =>
        have hmade : (⟨Function.update s.dir extractManifestFromWasm.id (some (.folder toml)),
            s.registry⟩ : State).idAt = s.idAt := by
          rw [idAt_update, Option.bind_some, idAt_of_createDir_ok hdir]
          exact Function.update_eq_self ..
        cases wasm with
        | some e => exact Or.inr ⟨(nomatch ·), rfl, hmade⟩
        | none =>
          cases manifest with
          | some e => exact Or.inr ⟨(nomatch ·), rfl, hmade⟩
          | none => exact Or.inl ⟨rfl, rfl⟩

/-! ## Which calls keep the promise -/

/-- An installation keeps the promise if and only if it is not over another plugin. -/
theorem agrees_install_iff (h : Index.Agrees s.idAt s.index) (faults : InstallFaults) :
    Index.Agrees (installPlugin faults s).2.idAt (installPlugin faults s).2.index ↔
      Allowed s (.install faults) := by
  obtain ⟨hnone, hdone⟩ | ⟨hnone, hreg, hid⟩ := installPlugin_cases faults s
  · rw [hdone, idAt_update, index_update]
    refine (Index.agrees_put_iff h).trans ⟨fun hplace _ id plugin hp hpath ↦ ?_, ?_⟩
    · exact hplace id (by rw [State.index, hp]; exact congrArg some hpath)
    · intro hallowed id hid
      obtain ⟨plugin, hp, hpath⟩ := Option.map_eq_some_iff.mp hid
      exact hallowed hnone id plugin hp hpath
  · refine iff_of_true ((agrees_congr hreg hid).mpr h) fun hf id plugin hp hpath ↦ ?_
    have hat := (consistent_iff_agrees.mpr h).paths id plugin hp
    rw [hpath, hnone hf] at hat
    cases hat

/-- An uninstallation of a plugin of the registry keeps the promise if and only if the folder of the
plugin is the only one of its id, and can be removed. -/
theorem agrees_uninstall_iff (h : Index.Agrees s.idAt s.index) {plugin : Plugin}
    (hp : s.registry id = some plugin) (fault : Option RemovalFault) :
    Index.Agrees (uninstallPlugin id fault s).2.idAt (uninstallPlugin id fault s).2.index ∧
        KeepsOnError s (.uninstall id fault) ↔ Allowed s (.uninstall id fault) := by
  obtain ⟨toml, hfolder⟩ : ∃ toml, s.dir plugin.path = some (.folder toml) := by
    have hat := (consistent_iff_agrees.mpr h).paths id plugin hp
    rw [State.idAt] at hat
    cases hentry : s.dir plugin.path with
    | none =>
      rw [hentry] at hat
      cases hat
    | some entry =>
      rw [hentry] at hat
      cases entry with
      | file => cases hat
      | folder toml => exact ⟨toml, rfl⟩
  have hindex : s.index id = some plugin.path := by rw [State.index, hp]; rfl
  have hrun : uninstallPlugin id fault s =
      ((removeDirAll fault (some (.folder toml))).1.mapError
          ("Failed to delete plugin directory: " ++ ·),
        ⟨Function.update s.dir plugin.path (removeDirAll fault (some (.folder toml))).2,
          Function.update s.registry id none⟩) := by
    rw [uninstallPlugin, hp, ← hfolder]
  cases fault with
  | none =>
    have hkeeps : KeepsOnError s (.uninstall id none) := by
      rintro ⟨e, he⟩
      rw [hrun] at he
      cases he
    rw [hrun, and_iff_left hkeeps, idAt_update, index_update]
    refine (Index.agrees_drop_iff h hindex).trans ⟨fun honly p hp' ↦ ⟨rfl, ?_⟩, fun hallowed ↦ ?_⟩
    · obtain rfl := Option.some.inj (hp.symm.trans hp')
      exact honly
    · exact (hallowed plugin hp).2
  | some f =>
    refine iff_of_false (fun hand ↦ ?_) fun hallowed ↦ nomatch (hallowed plugin hp).1
    have hkept : (uninstallPlugin id (some f) s).2.registry = s.registry :=
      hand.2 ⟨_, by rw [hrun]; rfl⟩
    rw [hrun] at hkept
    have hnone : Function.update s.registry id none id = s.registry id := congrFun hkept id
    rw [Function.update_self, hp] at hnone
    cases hnone

end Calls

/-- **One call keeps the promise if and only if it is allowed**. -/
theorem step_iff {s next : State} {call : Call} (h : Consistent s) (hlists : Lists s call)
    (hstep : step s call = some next) :
    Consistent next ∧ KeepsOnError s call ↔ Allowed s call := by
  obtain rfl := Option.some.inj hstep
  rw [consistent_iff_agrees] at h ⊢
  cases call with
  | init order =>
    exact iff_of_true ⟨agrees_scanPlugins h.sound hlists, trivial⟩ trivial
  | install faults => exact (and_iff_left trivial).trans (agrees_install_iff h faults)
  | enable id =>
    have hf : ∀ plugin : Plugin, { plugin with enabled := true }.path = plugin.path := fun _ ↦ rfl
    exact iff_of_true ⟨(agrees_updatePlugin hf).mpr h, trivial⟩ trivial
  | disable id =>
    have hf : ∀ plugin : Plugin, { plugin with enabled := false, loaded := false }.path =
      plugin.path := fun _ ↦ rfl
    exact iff_of_true ⟨(agrees_updatePlugin hf).mpr h, trivial⟩ trivial
  | uninstall id fault =>
    cases hp : s.registry id with
    | none =>
      have hrun : uninstallPlugin id fault s = (.error ("Plugin not found: " ++ id), s) := by
        rw [uninstallPlugin, hp]
      refine iff_of_true ⟨?_, fun _ ↦ by rw [hrun]⟩ fun plugin hplugin ↦ ?_
      · rw [Call.perform, hrun]
        exact h
      · rw [hp] at hplugin
        cases hplugin
    | some plugin => exact agrees_uninstall_iff h hp fault

/-- **The promise is kept all along a run** that starts with a scan of the folders if and only if
every call is allowed. -/
theorem kept_iff_guarded {dir : String → Option Entry} {order : List String}
    {calls : List Call} (horder : Lists (.fresh dir) (.init order))
    (hlists : Machine.Guarded step Lists (scanPlugins order (.fresh dir)) calls) :
    ((∀ pre post s, calls = pre ++ post →
          Machine.exec step (scanPlugins order (.fresh dir)) pre = some s → Consistent s) ∧
        ∀ pre call post s, calls = pre ++ call :: post →
          Machine.exec step (scanPlugins order (.fresh dir)) pre = some s → KeepsOnError s call) ↔
      Machine.Guarded step Allowed (scanPlugins order (.fresh dir)) calls := by
  obtain ⟨last, hrun⟩ := Machine.exists_exec_eq_some (fun _ _ ↦ ⟨_, rfl⟩)
    (scanPlugins order (.fresh dir)) calls
  exact Machine.inv_and_law_iff_guarded (fun _ _ _ h hl ht ↦ step_iff h hl ht)
    (consistent_init horder) hlists hrun

/-- A plugins directory with one plugin. -/
def exampleDir : String → Option Entry :=
  Function.update (fun _ ↦ none) "a"
    (some (.folder (some (.ok
      ⟨"a", "A Plugin", "1.0.0", "A test plugin", "Test", "MIT", [], "", []⟩))))

theorem lists_exampleDir : Lists (.fresh exampleDir) (.init ["a"]) := by
  intro name
  rw [List.mem_singleton, State.fresh, exampleDir]
  by_cases h : name = "a"
  · subst h
    exact iff_of_true rfl rfl
  · exact iff_of_false h (by simp [Function.update_of_ne h])

theorem idAt_exampleDir {registry : String → Option Plugin} :
    (⟨exampleDir, registry⟩ : State).idAt = Function.update (fun _ ↦ none) "a" (some "a") :=
  idAt_update _

/-- The plugin of the download is installed, and the other one is uninstalled. -/
theorem kept_iff_guarded_example :
    (∀ pre post s, [.install .none, .uninstall "a" none] = pre ++ post →
          Machine.exec step (scanPlugins ["a"] (.fresh exampleDir)) pre = some s → Consistent s) ∧
        ∀ pre call post s, [.install .none, .uninstall "a" none] = pre ++ call :: post →
          Machine.exec step (scanPlugins ["a"] (.fresh exampleDir)) pre = some s →
            KeepsOnError s call := by
  have hlists : Machine.Guarded step Lists (scanPlugins ["a"] (.fresh exampleDir))
      [.install .none, .uninstall "a" none] :=
    ⟨trivial, fun _ _ ↦ ⟨trivial, fun _ _ ↦ trivial⟩⟩
  refine (kept_iff_guarded lists_exampleDir hlists).mpr ⟨?_, fun s hs ↦ ⟨?_, fun _ _ ↦ trivial⟩⟩
  · intro _ id plugin hp hpath
    have hat := (consistent_init lists_exampleDir).paths id plugin hp
    have hnone : (scanPlugins ["a"] (.fresh exampleDir)).idAt "placeholder" = none := by decide
    rw [hpath, extractManifestFromWasm, hnone] at hat
    cases hat
  · obtain rfl := Option.some.inj hs
    intro plugin hp
    cases hp
    refine ⟨rfl, fun name hname ↦ ?_⟩
    have hat : ((Call.install .none).perform (scanPlugins ["a"] (.fresh exampleDir))).idAt =
        Function.update (Function.update (fun _ ↦ none) "a" (some "a")) "placeholder"
          (some "placeholder") :=
      (idAt_update _).trans (congrArg (Function.update · _ _) idAt_exampleDir)
    rw [hat, Function.update_apply, Function.update_apply] at hname
    split at hname
    · exact absurd (Option.some.inj hname) (by decide)
    · split at hname
      case isTrue ha => exact ha
      case isFalse => cases hname

/-- **The promise is not kept**: where a folder cannot be removed, its plugin has left the registry
when `uninstall_plugin` returns the error. -/
theorem not_forall_kept : ¬ ∀ (dir : String → Option Entry) (order : List String)
    (calls : List Call), Lists (.fresh dir) (.init order) →
      Machine.Guarded step Lists (scanPlugins order (.fresh dir)) calls →
        (∀ pre post s, calls = pre ++ post →
            Machine.exec step (scanPlugins order (.fresh dir)) pre = some s → Consistent s) ∧
          ∀ pre call post s, calls = pre ++ call :: post →
            Machine.exec step (scanPlugins order (.fresh dir)) pre = some s →
              KeepsOnError s call := by
  intro hall
  have hlists : Machine.Guarded step Lists (scanPlugins ["a"] (.fresh exampleDir))
      [.uninstall "a" (some ⟨"Permission denied (os error 13)", true⟩)] :=
    ⟨trivial, fun _ _ ↦ trivial⟩
  have hkept := (hall exampleDir ["a"] _ lists_exampleDir hlists).2 [] _ [] _ rfl rfl ⟨_, rfl⟩
  have hnone := congrFun hkept "a"
  cases hnone

end WorkWithMe.Server.Plugins
