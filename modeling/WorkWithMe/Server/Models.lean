import Mathlib
import WorkWithMe.Server.Settings

/-!
# The models

The models are a list in the program and the ones that the user has added, which are the elements
of `custom_models` in the settings that have the fields of a `Model`.  `select_model`,
`add_custom_model` and `remove_custom_model` each load the settings two or three times: to look for
the model or at the list, and again in the `set_setting` at the end.

* `run_listModels` and `run_findModel` say that looking for a model is a question to the settings.
* `fromValue_toValue` says that a model that has been added is one that is listed.
* `builtin_not_custom` says that the models in the program are told from the others by their flag.
-/

set_option autoImplicit false

namespace WorkWithMe.Server.Models

open JsonFile Serial Settings

/-! ## Models -/

/-- `Model`. -/
structure Model where
  /-- The id. -/
  id : String
  /-- The name. -/
  name : String
  /-- The provider. -/
  provider : String
  /-- `max_tokens`. -/
  maxTokens : UInt32
  /-- `context_length`. -/
  contextLength : UInt32
  /-- The description. -/
  description : String
  /-- Has the user added the model? -/
  custom : Bool

/-- A model of the program. -/
def Model.builtin (id name provider : String) (contextLength maxTokens : UInt32)
    (description : String) : Model :=
  ⟨id, name, provider, maxTokens, contextLength, description, false⟩

/-- `builtin_models`. -/
def builtinModels : List Model :=
  [.builtin "claude-opus-4-6" "Claude Opus 4.6" "anthropic" 1000000 128000
    "Anthropic flagship — 1M context, extended thinking, tool use",
   .builtin "claude-sonnet-4-6" "Claude Sonnet 4.6" "anthropic" 1000000 64000
    "Best balance of capability and speed — 1M context",
   .builtin "claude-opus-4-5" "Claude Opus 4.5" "anthropic" 200000 64000
    "Highly capable with extended thinking and tool use",
   .builtin "claude-sonnet-4-5" "Claude Sonnet 4.5" "anthropic" 200000 64000
    "Fast, capable, cost-efficient — great for most agent tasks",
   .builtin "claude-haiku-4-5" "Claude Haiku 4.5" "anthropic" 200000 64000
    "Fastest Claude — ideal for high-throughput or latency-sensitive tasks",
   .builtin "gpt-5.4" "GPT-5.4" "openai" 1050000 128000
    "Latest GPT-5 — 1M context, reasoning, tool use",
   .builtin "gpt-5.4-pro" "GPT-5.4 Pro" "openai" 1050000 128000
    "Premium GPT-5.4 — extended capabilities",
   .builtin "gpt-5.4-mini" "GPT-5.4 mini" "openai" 400000 128000
    "Fast, affordable GPT-5.4 for everyday tasks",
   .builtin "gpt-5.1-codex" "GPT-5.1 Codex" "openai" 400000 128000
    "Coding-optimised GPT-5 — excels at code generation and refactoring",
   .builtin "gpt-5.1-codex-max" "GPT-5.1 Codex Max" "openai" 400000 128000
    "Maximum-power Codex variant for large, complex codebases",
   .builtin "gpt-4.1" "GPT-4.1" "openai" 1047576 32768
    "Reliable all-rounder — 1M context, strong instruction following",
   .builtin "gpt-4.1-mini" "GPT-4.1 mini" "openai" 1047576 32768
    "Lightweight GPT-4.1 — fast and cost-efficient",
   .builtin "gpt-4o" "GPT-4o" "openai" 128000 16384
    "Multimodal GPT-4 — vision + tool use",
   .builtin "o3" "o3" "openai" 200000 100000
    "Deep reasoning — best for math, science, complex multi-step problems",
   .builtin "o3-pro" "o3-pro" "openai" 200000 100000
    "Premium reasoning model — highest accuracy on hard problems",
   .builtin "o4-mini" "o4-mini" "openai" 200000 100000
    "Fast reasoning — affordable o-series for agentic tasks",
   .builtin "codex-mini-latest" "Codex mini" "openai" 200000 100000
    "Compact coding-focused reasoning model"]

/-- A number that is a `u32`: it is written with digits only, and is not too large. -/
def u32OfJson : Json → Option UInt32
  | .num text => text.toNat?.bind fun n ↦ if n < UInt32.size then some (.ofNat n) else none
  | _ => none

/-- A truth value. -/
def boolOfJson : Json → Option Bool
  | .bool b => some b
  | _ => none

/-- A model from its fields. -/
def Model.ofFields (id name provider maxTokens contextLength description custom : Json) :
    Option Model := do
  return ⟨← id.asStr, ← name.asStr, ← provider.asStr, ← u32OfJson maxTokens,
    ← u32OfJson contextLength, ← description.asStr, ← boolOfJson custom⟩

/-- `from_value::<Model>`: an object with all the fields, or an array of them in their order. -/
def Model.fromValue : Json → Option Model
  | .obj ms => do
    Model.ofFields (← ms.lookup "id") (← ms.lookup "name") (← ms.lookup "provider")
      (← ms.lookup "max_tokens") (← ms.lookup "context_length") (← ms.lookup "description")
      (← ms.lookup "custom")
  | .arr [id, name, provider, maxTokens, contextLength, description, custom] =>
    Model.ofFields id name provider maxTokens contextLength description custom
  | _ => none

/-- `to_value`. -/
def Model.toValue (m : Model) : Json :=
  .obj [("id", .str m.id), ("name", .str m.name), ("provider", .str m.provider),
    ("max_tokens", .num (toString m.maxTokens.toNat)),
    ("context_length", .num (toString m.contextLength.toNat)),
    ("description", .str m.description), ("custom", .bool m.custom)]

/-! ## The functions -/

/-- The array `custom_models`, if that is what the setting is. -/
def customArray : Option Json → List Json
  | some (.arr custom) => custom
  | _ => []

/-- `list_models`. -/
def listModels : Prog File Failure (List Model) := do
  match ← (getSetting "custom_models").run with
  | .ok custom => return builtinModels ++ (customArray custom).filterMap Model.fromValue
  | .error _ => return builtinModels

/-- `find_model`. -/
def findModel (id : String) : Settings.Action Model := .mk do
  let models ← listModels
  return (models.find? fun m ↦ m.id = id).elim (.error ("Model not found: " ++ id)) .ok

/-- `select_model`. -/
def selectModel (id : String) : Settings.Action Unit := do
  let _ ← findModel id
  setSetting "model" (.str id)

/-- `add_custom_model`. -/
def addCustomModel (model : Model) : Settings.Action Unit := do
  if !model.custom then
    throw "Custom models must have custom=true"
  else
    let custom ← getSetting "custom_models"
    setSetting "custom_models" (.arr (customArray custom ++ [model.toValue]))

/-- The element stays when the model `id` is removed. -/
def stays (id : String) (v : Json) : Bool := (v.get "id").bind Json.asStr ≠ some id

/-- The part of `remove_custom_model` after the check that the user has added the model. -/
def removeAdded (id : String) : Settings.Action Bool := do
  let custom ← getSetting "custom_models"
  let kept := (customArray custom).filter (stays id)
  if kept.length < (customArray custom).length then
    setSetting "custom_models" (.arr kept)
    return true
  else
    return false

/-- `remove_custom_model`. -/
def removeCustomModel (id : String) : Settings.Action Bool := do
  let model ← findModel id
  if !model.custom then
    throw "Cannot remove builtin models"
  else
    removeAdded id

/-- `get_selected_model`. -/
def getSelectedModel : Settings.Action Model := do
  let model ← getSetting "model"
  findModel ((model.bind Json.asStr).getD "claude-sonnet-4-6")

/-- An element is removed if and only if the list gets shorter. -/
theorem length_filter_stays_lt {id : String} {custom : List Json} :
    (custom.filter (stays id)).length < custom.length ↔ ∃ v ∈ custom, stays id v = false := by
  rw [List.length_filter_lt_length_iff_exists]
  simp only [Bool.not_eq_true]

/-! ## The models in a document -/

/-- The models that `list_models` finds in a document. -/
def listed (d : Document) : List Model :=
  builtinModels ++ (customArray (d.get "custom_models")).filterMap Model.fromValue

/-- The model that `find_model` finds in a document. -/
def found (id : String) (d : Document) : Option Model := (listed d).find? fun m ↦ m.id = id

theorem run_listModels (file : File) : listModels.run file = (listed (view file), made file) := by
  rw [listModels, Prog.run_bind, run_getSetting, listed, get_view]
  rfl

theorem run_findModel (id : String) (file : File) : (findModel id).run.run file =
    ((found id (view file)).elim (.error ("Model not found: " ++ id)) .ok, made file) := by
  rw [findModel, ExceptT.run_mk, Prog.run_bind, run_listModels]
  rfl

/-- The id that `get_selected_model` looks for in a document. -/
def selectedId (d : Document) : String :=
  ((d.get "model").bind Json.asStr).getD "claude-sonnet-4-6"

theorem run_getSelectedModel (file : File) : getSelectedModel.run.run file =
    ((found (selectedId (view file)) (view file)).elim
      (.error ("Model not found: " ++ selectedId (view file))) .ok, made file) := by
  rw [getSelectedModel, run_bind_of_ok (run_getSetting _ _), ← get_view, run_findModel, view_made]
  rfl

/-! ## Looking for a model as a part of a program -/

/-- The models, once the settings have been loaded or not. -/
def modelsIn : Except String Json → List Model
  | .ok settings => listed (.of settings)
  | .error _ => builtinModels

theorem listModels_bind {ρ : Type} (g : List Model → Prog File Failure ρ) :
    listModels >>= g = loadSettings.run >>= fun r ↦ g (modelsIn r) := by
  rw [listModels, getSetting, ExceptT.run_bind, bind_assoc, bind_assoc]
  refine bind_congr fun r ↦ ?_
  cases r with
  | ok settings => rw [modelsIn, listed, Document.get_of]; rfl
  | error e => rfl

/-- What a function does that begins by looking for a model. -/
def withModel {α : Type} (id : String) (f : Model → Settings.Action α) (models : List Model) :
    Prog File Failure (Except String α) :=
  (models.find? fun m ↦ m.id = id).elim (.done (.error ("Model not found: " ++ id)))
    fun m ↦ (f m).run

theorem run_findModel_bind {α : Type} (id : String) (f : Model → Settings.Action α) :
    (findModel id >>= f).run = loadSettings.run >>= fun r ↦ withModel id f (modelsIn r) := by
  rw [← listModels_bind, findModel, ExceptT.run_bind, ExceptT.run_mk, bind_assoc]
  refine bind_congr fun models ↦ ?_
  rw [withModel]
  cases models.find? fun m ↦ m.id = id <;> rfl

section Sound

variable {perform : Document → Document} {fresh : List (Except Failure File) → File → Prop}
  {seen : List (Except Failure File)} {α : Type} {id : String} {f : Model → Settings.Action α}
  {models : List Model}

theorem not_ends_withModel (hends : ∀ m, ¬ (f m).run.Ends Succeeds) :
    ¬ (withModel id f models).Ends Succeeds := by
  rw [withModel]
  cases models.find? fun m ↦ m.id = id with
  | none => exact not_ends_error
  | some m => exact hends m

theorem sound_withModel (h : ∀ m, models.find? (fun m ↦ m.id = id) = some m →
      (f m).run.Sound Succeeds view perform fresh seen) :
    (withModel id f models).Sound Succeeds view perform fresh seen := by
  rw [withModel]
  cases hm : models.find? fun m ↦ m.id = id with
  | none => trivial
  | some m => exact h m hm

/-- **The rule for looking for a model** in a function that has more to do then: it goes on with a
model of the settings that it has loaded, or with one of the program if it could not load any. -/
theorem sound_findModel (hends : ∀ m, ¬ (f m).run.Ends Succeeds)
    (hfound : ∀ x m, found id (.of (parsed x)) = some m →
      (f m).run.Sound Succeeds view perform fresh (seen ++ [x]))
    (hbuiltin : ∀ m ∈ builtinModels, (f m).run.Sound Succeeds view perform fresh seen) :
    (findModel id >>= f).run.Sound Succeeds view perform fresh seen := by
  rw [run_findModel_bind]
  have hquiet : ∀ r, ¬ (withModel id f (modelsIn r)).Ends Succeeds :=
    fun r ↦ not_ends_withModel hends
  exact sound_loadSettings (fun _ h ↦ absurd h (hquiet _)) (fun h ↦ absurd h (hquiet _))
    (fun x ↦ sound_withModel (hfound x))
    fun e ↦ ⟨hquiet _, sound_withModel fun m hm ↦ hbuiltin m (List.mem_of_find?_eq_some hm)⟩

end Sound

/-! ## Models as JSON -/

theorem u32OfJson_toString (n : UInt32) : u32OfJson (.num (toString n.toNat)) = some n := by
  rw [u32OfJson, Nat.toString_eq_repr, Nat.toNat?_repr, Option.bind_some, if_pos n.toNat_lt_size,
    UInt32.ofNat_toNat]

/-- **A model that has been written is read back.** -/
theorem fromValue_toValue (m : Model) : Model.fromValue m.toValue = some m := by
  have hfields : Model.fromValue m.toValue = Model.ofFields (.str m.id) (.str m.name)
      (.str m.provider) (.num (toString m.maxTokens.toNat))
      (.num (toString m.contextLength.toNat)) (.str m.description) (.bool m.custom) := rfl
  rw [hfields, Model.ofFields, u32OfJson_toString, u32OfJson_toString]
  rfl

/-- The models in the program are told from the others by their flag. -/
theorem builtin_not_custom : ∀ m ∈ builtinModels, m.custom = false := by
  decide

end WorkWithMe.Server.Models
