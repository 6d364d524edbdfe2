import WorkWithMe.Lib.JsonFile
import WorkWithMe.Lib.Serial

/-!
# The settings file

`~/.pi/settings.json` is read as a whole on every `get_setting` and written as a whole on every
`set_setting` and `delete_setting`, with nothing in the process that remembers it or locks it.  Each
function here is the program of its accesses to the file: the test that the file exists, a read, a
write.  An access can fail; a read that fails, and a file that is not JSON, count as the default
settings.

* `Document` is what the readers of a settings document can tell: the members of an object, in no
  order.  `run_loadSettings` says that loading does not change it.
* `run_setSetting` and `run_deleteSetting` are what the functions do when nothing comes between
  their accesses.
* `sound_loadSettings` is the rule for a program that begins by loading the settings.
-/

set_option autoImplicit false

namespace WorkWithMe.Server.Settings

open JsonFile Serial

/-! ## The functions -/

/-- What there is at `settings_path()`. -/
abbrev File := Option Contents

/-- An operation of the file system has failed, with what the system says of it. -/
inductive Failure where
  /-- `create_dir_all`. -/
  | dir (e : String)
  /-- `write`, or a read. -/
  | access (e : String)

/-- A function that uses the settings file, and returns a `Result`. -/
abbrev Action := ExceptT String (Prog File Failure)

/-- `default_settings`. -/
def defaultSettings : Json :=
  .obj [("theme", .str "dark"), ("model", .str "claude-opus-4-6"), ("max_tokens", .num "4096"),
    ("temperature", .num "1.0"), ("api_key_type", .str "keychain"),
    ("auto_save_sessions", .bool true), ("notification_enabled", .bool true),
    ("font_size", .num "14"), ("editor_wrap", .bool true)]

/-- The error of a `save_settings` that has failed. -/
def Failure.text : Failure → String
  | .dir e => "Failed to create settings directory: " ++ e
  | .access e => "Failed to write settings: " ++ e

/-- `save_settings`. -/
def saveSettings (settings : Json) : Action Unit :=
  .mk <| .put (some (.doc settings)) fun
    | none => .done (.ok ())
    | some e => .done (.error e.text)

/-- The settings in what has been read, and the defaults where the read or the parser failed. -/
def parsed : Except Failure File → Json
  | .ok (some (.doc settings)) => settings
  | _ => defaultSettings

/-- `load_settings`. -/
def loadSettings : Action Json :=
  .mk <| .test Option.isSome fun
    | false => (do saveSettings defaultSettings; return defaultSettings : Action Json).run
    | true => .get fun content ↦ .done (.ok (parsed content))

/-- `get_setting`. -/
def getSetting (key : String) : Action (Option Json) := do
  let settings ← loadSettings
  return settings.get key

/-- `set_setting`. -/
def setSetting (key : String) (value : Json) : Action Unit := do
  let settings ← loadSettings
  saveSettings (settings.insert key value)

/-- `delete_setting`. -/
def deleteSetting (key : String) : Action Bool := do
  let settings ← loadSettings
  if settings.isObject then
    saveSettings (settings.remove key)
    return (settings.get key).isSome
  else
    return false

/-! ## What can be told of a document -/

/-- A settings document as its readers see it. -/
inductive Document where
  /-- An object, by its members. -/
  | object (fields : String → Option Json)
  /-- Anything else. -/
  | other (v : Json)

namespace Document

/-- What can be told of a JSON document. -/
def of : Json → Document
  | .obj members => .object fun key ↦ members.lookup key
  | v => .other v

/-- A member. -/
def get (key : String) : Document → Option Json
  | object fields => fields key
  | other _ => none

/-- Write a member of an object. -/
def set (key : String) (value : Json) : Document → Document
  | object fields => object (Function.update fields key (some value))
  | other v => other v

/-- Remove a member of an object. -/
def unset (key : String) : Document → Document
  | object fields => object (Function.update fields key none)
  | other v => other v

variable {d d' : Document} {j k : String} {v w : Json}

@[simp] theorem get_of (v : Json) (k : String) : (of v).get k = v.get k := by cases v <;> rfl

@[simp] theorem of_insert (v : Json) (k : String) (w : Json) :
    of (v.insert k w) = (of v).set k w := by
  cases v with
  | obj ms =>
    refine congrArg object (funext fun j ↦ ?_)
    by_cases hj : j = k
    · subst hj
      simp [Json.lookup_insertMember_self]
    · simp [Json.lookup_insertMember_of_ne hj, Function.update_of_ne hj]
  | _ => rfl

@[simp] theorem of_remove (v : Json) (k : String) : of (v.remove k) = (of v).unset k := by
  cases v with
  | obj ms =>
    refine congrArg object (funext fun j ↦ ?_)
    by_cases hj : j = k
    · subst hj
      simp [Json.lookup_removeMember_self]
    · simp [Json.lookup_removeMember_of_ne hj, Function.update_of_ne hj]
  | _ => rfl

theorem unset_of_not_isObject (h : ¬ v.isObject = true) : (of v).unset k = of v := by
  cases v with
  | obj ms => exact absurd rfl h
  | _ => rfl

/-- A write of a member wipes out what the document says of it. -/
@[simp] theorem set_unset (k : String) (w : Json) (d : Document) :
    (d.unset k).set k w = d.set k w := by
  cases d with
  | object f => simp [unset, set]
  | other v => rfl

/-- Documents that agree but for one member, after a write of that member. -/
theorem set_congr (h : d.unset k = d'.unset k) (w : Json) : d.set k w = d'.set k w := by
  rw [← set_unset, h, set_unset]

/-- The document is an object. -/
def IsObject (d : Document) : Prop := ∃ fields, d = object fields

theorem isObject_of (h : v.isObject = true) : (of v).IsObject := by
  obtain ⟨ms, rfl⟩ := Json.isObject_iff.mp h
  exact ⟨_, rfl⟩

theorem IsObject.set (h : d.IsObject) : (d.set k w).IsObject := by
  obtain ⟨fields, rfl⟩ := h
  exact ⟨_, rfl⟩

theorem IsObject.unset (h : d.IsObject) : (d.unset k).IsObject := by
  obtain ⟨fields, rfl⟩ := h
  exact ⟨_, rfl⟩

theorem IsObject.get_set_self (h : d.IsObject) : (d.set k w).get k = some w := by
  obtain ⟨fields, rfl⟩ := h
  exact Function.update_self ..

@[simp] theorem get_set_of_ne (h : j ≠ k) : (d.set k w).get j = d.get j := by
  cases d with
  | object f => exact Function.update_of_ne h ..
  | other v => rfl

@[simp] theorem get_unset_of_ne (h : j ≠ k) : (d.unset k).get j = d.get j := by
  cases d with
  | object f => exact Function.update_of_ne h ..
  | other v => rfl

end Document

/-- What can be told of the settings in a file. -/
def view (file : File) : Document := .of (parsed (.ok file))

theorem get_view (file : File) (key : String) :
    (view file).get key = (parsed (.ok file)).get key :=
  Document.get_of ..

/-! ## The functions, when nothing comes between their accesses -/

/-- The file once the settings have been loaded. -/
def made (file : File) : File := some (file.getD (.doc defaultSettings))

@[simp] theorem parsed_made (file : File) : parsed (.ok (made file)) = parsed (.ok file) := by
  cases file <;> rfl

@[simp] theorem view_made (file : File) : view (made file) = view file := by
  rw [view, parsed_made, view]

@[simp] theorem made_some (c : Contents) : made (some c) = some c := rfl

@[simp] theorem view_doc (v : Json) : view (some (.doc v)) = .of v := rfl

/-- A function that returns `Ok`, and what comes after it. -/
theorem run_bind_of_ok {α β : Type} {x : Action α} {file file' : File} {a : α}
    (h : x.run.run file = (.ok a, file')) (f : α → Action β) :
    (x >>= f).run.run file = (f a).run.run file' := by
  rw [ExceptT.run_bind, Prog.run_bind, h]

/-- A function that returns `Err`: nothing comes after it. -/
theorem run_bind_of_error {α β : Type} {x : Action α} {file file' : File} {e : String}
    (h : x.run.run file = (.error e, file')) (f : α → Action β) :
    (x >>= f).run.run file = (.error e, file') := by
  rw [ExceptT.run_bind, Prog.run_bind, h]
  rfl

theorem run_loadSettings (file : File) :
    loadSettings.run.run file = (.ok (parsed (.ok file)), made file) := by
  cases file <;> rfl

theorem run_getSetting (key : String) (file : File) :
    (getSetting key).run.run file = (.ok ((parsed (.ok file)).get key), made file) :=
  run_bind_of_ok (run_loadSettings file) _

theorem run_setSetting (key : String) (value : Json) (file : File) :
    (setSetting key value).run.run file =
      (.ok (), some (.doc ((parsed (.ok file)).insert key value))) :=
  run_bind_of_ok (run_loadSettings file) _

/-- What `delete_setting` does: a document that is not an object stays. -/
theorem view_run_deleteSetting (key : String) (file : File) :
    ∃ existed file', (deleteSetting key).run.run file = (.ok existed, file') ∧
      view file' = (view file).unset key := by
  rw [deleteSetting, run_bind_of_ok (run_loadSettings file)]
  by_cases hobj : (parsed (.ok file)).isObject = true
  · rw [if_pos hobj]
    exact ⟨_, _, rfl, Document.of_remove ..⟩
  · rw [if_neg hobj]
    exact ⟨_, _, rfl, by rw [view_made, view, Document.unset_of_not_isObject hobj]⟩

/-! ## The functions as parts of a program -/

/-- The call returns `Ok`. -/
def Succeeds {α : Type} (r : Except String α) : Prop := ∃ a, r = .ok a

theorem not_ends_error {α : Type} {e : String} :
    ¬ (.done (.error e) : Prog File Failure (Except String α)).Ends Succeeds := by
  simp [Succeeds]

section Sound

variable {perform : Document → Document} {fresh : List (Except Failure File) → File → Prop}
  {seen : List (Except Failure File)} {α : Type}

/-- **The rule for loading the settings.**  What the program may end with depends on the settings it
finds, on the defaults if it makes the file, and on the error if it cannot. -/
theorem sound_loadSettings {g : Except String Json → Prog File Failure (Except String α)}
    (hread : ∀ file, (g (.ok (parsed (.ok file)))).Ends Succeeds →
      perform (view file) = view file)
    (hmade : (g (.ok defaultSettings)).Ends Succeeds →
      ∀ file, fresh seen file → .of defaultSettings = perform (view file))
    (hok : ∀ x, (g (.ok (parsed x))).Sound Succeeds view perform fresh (seen ++ [x]))
    (herr : ∀ e, ¬ (g (.error e)).Ends Succeeds ∧
      (g (.error e)).Sound Succeeds view perform fresh seen) :
    (loadSettings.run >>= g).Sound Succeeds view perform fresh seen := by
  rintro (_ | _)
  · exact ⟨Prog.not_ends_put, hmade, hok (.ok (some (.doc defaultSettings))),
      fun e ↦ herr e.text⟩
  · exact ⟨Prog.not_ends_get, hread, hok⟩

/-- The rule for a function that returns the error. -/
theorem sound_loadSettings_bind {f : Json → Action α}
    (hread : ∀ file, (f (parsed (.ok file))).run.Ends Succeeds → perform (view file) = view file)
    (hmade : (f defaultSettings).run.Ends Succeeds →
      ∀ file, fresh seen file → .of defaultSettings = perform (view file))
    (hok : ∀ x, (f (parsed x)).run.Sound Succeeds view perform fresh (seen ++ [x])) :
    (loadSettings >>= f).run.Sound Succeeds view perform fresh seen := by
  rw [ExceptT.run_bind]
  exact sound_loadSettings hread hmade hok fun e ↦ ⟨not_ends_error, trivial⟩

/-- The rule for a function that has more to do once it has loaded the settings. -/
theorem sound_loadSettings_bind_of_not_ends {f : Json → Action α}
    (hends : ∀ settings, ¬ (f settings).run.Ends Succeeds)
    (hok : ∀ x, (f (parsed x)).run.Sound Succeeds view perform fresh (seen ++ [x])) :
    (loadSettings >>= f).run.Sound Succeeds view perform fresh seen :=
  sound_loadSettings_bind (fun _ h ↦ absurd h (hends _)) (fun h ↦ absurd h (hends _)) hok

/-- The rule for a save at the end. -/
theorem sound_saveSettings {settings : Json} {a : α}
    (h : ∀ file, fresh seen file → .of settings = perform (view file)) :
    (do saveSettings settings; return a : Action α).run.Sound Succeeds view perform fresh seen :=
  ⟨fun _ ↦ h, trivial, fun _ ↦ ⟨not_ends_error, trivial⟩⟩

theorem not_ends_saveSettings {settings : Json} {a : α} :
    ¬ (do saveSettings settings; return a : Action α).run.Ends Succeeds :=
  Prog.not_ends_put

/-- The rule for a `set_setting` at the end. -/
theorem sound_setSetting {key : String} {value : Json} {a : α}
    (h : ∀ x file, fresh (seen ++ [x]) file →
      (Document.of (parsed x)).set key value = perform (view file)) :
    (do setSetting key value; return a : Action α).run.Sound Succeeds view perform fresh seen := by
  rw [setSetting, bind_assoc]
  refine sound_loadSettings_bind_of_not_ends (fun _ ↦ not_ends_saveSettings) fun x ↦ ?_
  exact sound_saveSettings fun file hf ↦ by rw [Document.of_insert, h x file hf]

theorem not_ends_setSetting {key : String} {value : Json} {a : α} :
    ¬ (do setSetting key value; return a : Action α).run.Ends Succeeds :=
  Prog.not_ends_test

end Sound

end WorkWithMe.Server.Settings
