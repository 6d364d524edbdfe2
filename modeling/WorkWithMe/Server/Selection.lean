import WorkWithMe.Lib.Machine
import WorkWithMe.Server.Updates

/-!
# The selected model and the models that the user has added

`select_model` checks that there is a model with the id before it writes the id to the settings,
and `get_selected_model` looks for the model with the id that is there.  Between the two,
`remove_custom_model` asks only whether the user has added the model, not whether it is selected;
and `add_custom_model` does not ask whether there is a model with the id already, while the look-ups
take the models of the program first.

Here the calls come one after the other and their accesses to the file succeed; the calls at the
same time are in `WorkWithMe.Server.Updates`.

* `Consistent` is what is promised after a history of calls: there is a selected model, and each
  model that has been added can be removed.
* `Sane` is the invariant of the settings document, and `Sane.perform` says which calls keep it.
* `consistent_iff_guarded` is the result: the promise is kept all along a run if and only if no
  model with an id of the program is added, and no model is removed while it is selected.
-/

set_option autoImplicit false

namespace WorkWithMe.Server.Selection

open JsonFile Settings Models Updates

/-! ## The calls -/

/-- A call of `models.rs` that writes. -/
inductive Call where
  /-- `select_model`. -/
  | select (id : String)
  /-- `add_custom_model`. -/
  | add (model : Model)
  /-- `remove_custom_model`. -/
  | remove (id : String)

/-- The call as one of those that share the settings file. -/
def Call.op : Call → Op
  | select id => .select id
  | add model => .add model
  | remove id => .remove id

/-- A call that nothing comes between, whatever it answers. -/
def step (file : File) (call : Call) : Option File := some (call.op.call.run.run file).2

/-! ## The promise -/

/-- `add_custom_model` accepts the model. -/
def Accepted (m : Model) (file : File) : Prop := ((addCustomModel m).run.run file).1 = .ok ()

/-- The model has been added, and there has been no call to remove it since. -/
def Added (start : File) (calls : List Call) (m : Model) : Prop :=
  ∃ pre post file, calls = pre ++ .add m :: post ∧ Machine.exec step start pre = some file ∧
    Accepted m file ∧ .remove m.id ∉ post

/-- `remove_custom_model` removes the models with the id that the user has added, and these only. -/
def Removes (id : String) (file : File) : Prop :=
  ∃ after, (removeCustomModel id).run.run file = (.ok true, after) ∧
    (listModels.run after).1 = (listModels.run file).1.filter fun m ↦ ¬ (m.custom ∧ m.id = id)

/-- **The promise** about the settings after a history of calls. -/
structure Consistent (start : File) (calls : List Call) (file : File) : Prop where
  /-- There is a selected model. -/
  selected : ∃ m, (getSelectedModel.run.run file).1 = .ok m
  /-- What has been added can be removed. -/
  removes : ∀ m, Added start calls m → Removes m.id file

/-- The call adds no model with an id of the program, and does not remove the selected model. -/
def Allowed (file : File) : Call → Prop
  | .select _ => True
  | .add m => m.custom = true → ∀ b ∈ builtinModels, b.id ≠ m.id
  | .remove id => (found id (view file)).any Model.custom = true → selectedId (view file) ≠ id

/-! ## The models that the user has added -/

/-- The model is marked as one that the user has added, and has an id that no model of the program
has. -/
def IsOwn (m : Model) : Prop := m.custom = true ∧ ∀ b ∈ builtinModels, b.id ≠ m.id

/-- The settings are an object, and what the user has added to them are these models. -/
structure Customs (d : Document) (models : List Model) : Prop where
  /-- The settings are an object. -/
  isObject : d.IsObject
  /-- What `custom_models` holds. -/
  array : customArray (d.get "custom_models") = models.map Model.toValue
  /-- None of them is a model of the program. -/
  own : ∀ m ∈ models, IsOwn m

theorem stays_toValue (id : String) (m : Model) : stays id m.toValue = decide (m.id ≠ id) := by
  have hid : (m.toValue.get "id").bind Json.asStr = some m.id := rfl
  rw [stays, hid]
  simp

/-- What stays of the models, when one is removed. -/
theorem filter_stays_toValue (id : String) (models : List Model) :
    (models.map Model.toValue).filter (stays id) =
      (models.filter fun m ↦ m.id ≠ id).map Model.toValue := by
  rw [List.filter_map]
  exact congrArg _ (List.filter_congr fun m _ ↦ stays_toValue id m)

theorem found_isSome_iff {id : String} {d : Document} :
    (found id d).isSome ↔ ∃ m ∈ listed d, m.id = id := by
  simp [found]

/-- The selected id is not in the list of models. -/
theorem selectedId_set (value : Json) (d : Document) :
    selectedId (d.set "custom_models" value) = selectedId d := by
  rw [selectedId, Document.get_set_of_ne (by decide), selectedId]

/-- The models of the program are found first. -/
theorem found_builtin {b : Model} (hb : b ∈ builtinModels) (d : Document) :
    (found b.id d).any Model.custom = false := by
  rw [found, Models.listed, List.find?_append]
  cases hx : builtinModels.find? fun m ↦ m.id = b.id with
  | none => exact absurd (decide_eq_true rfl) (List.find?_eq_none.mp hx b hb)
  | some x => exact builtin_not_custom x (List.mem_of_find?_eq_some hx)

namespace Customs

variable {d : Document} {id : String} {models models' : List Model}

theorem listed (h : Customs d models) : listed d = builtinModels ++ models := by
  have hid : Model.fromValue ∘ Model.toValue = some := funext fromValue_toValue
  rw [Models.listed, h.array, List.filterMap_map, hid, List.filterMap_some]

/-- Another list of models. -/
theorem set (h : Customs d models) (hown : ∀ m ∈ models', IsOwn m) :
    Customs (d.set "custom_models" (.arr (models'.map Model.toValue))) models' :=
  ⟨h.isObject.set, by rw [h.isObject.get_set_self]; rfl, hown⟩

/-- Another member. -/
theorem set_of_ne (h : Customs d models) {key : String} (hkey : "custom_models" ≠ key)
    (value : Json) : Customs (d.set key value) models :=
  ⟨h.isObject.set, by rw [Document.get_set_of_ne hkey, h.array], h.own⟩

/-- The models that `remove_custom_model` takes for added ones are these. -/
theorem found_any_custom_iff (h : Customs d models) :
    (found id d).any Model.custom = true ↔ ∃ m ∈ models, m.id = id := by
  constructor
  · intro hany
    obtain ⟨m, hm, hcustom⟩ : ∃ m, found id d = some m ∧ m.custom = true := by
      simpa [Option.any_eq_true] using hany
    have hmem := List.mem_of_find?_eq_some hm
    rw [h.listed, List.mem_append] at hmem
    refine ⟨m, hmem.resolve_left fun hb ↦ ?_, by simpa using List.find?_some hm⟩
    rw [builtin_not_custom m hb] at hcustom
    cases hcustom
  · rintro ⟨m, hm, rfl⟩
    obtain ⟨x, hx⟩ := Option.isSome_iff_exists.mp (found_isSome_iff.mpr
      ⟨m, h.listed ▸ List.mem_append_right _ hm, rfl⟩ : (found m.id d).isSome)
    have hmem := List.mem_of_find?_eq_some hx
    rw [h.listed, List.mem_append] at hmem
    have hid : x.id = m.id := by simpa using List.find?_some hx
    rw [hx, Option.any_some]
    exact (h.own x (hmem.resolve_left fun hb ↦ (h.own m hm).2 x hb hid)).1

/-- What a removal does. -/
theorem perform_remove (h : Customs d models) (hid : ∃ m ∈ models, m.id = id) :
    (Op.remove id).perform d =
      d.set "custom_models" (.arr ((models.filter fun m ↦ m.id ≠ id).map Model.toValue)) := by
  have hshort : ∃ v ∈ customArray (d.get "custom_models"), stays id v = false := by
    obtain ⟨m, hm, hid⟩ := hid
    rw [h.array]
    exact ⟨m.toValue, List.mem_map_of_mem hm, by rw [stays_toValue]; simpa using hid⟩
  rw [Op.perform, if_pos ⟨h.found_any_custom_iff.mpr hid, hshort⟩, h.array, filter_stays_toValue]

/-- The models after a removal. -/
theorem remove (h : Customs d models) (hid : ∃ m ∈ models, m.id = id) :
    Customs ((Op.remove id).perform d) (models.filter fun m ↦ m.id ≠ id) := by
  rw [h.perform_remove hid]
  exact h.set fun m hm ↦ h.own m (List.mem_filter.mp hm).1

/-- The models after one has been added. -/
theorem add (h : Customs d models) {m : Model} (hm : IsOwn m) :
    Customs ((Op.add m).perform d) (models ++ [m]) := by
  rw [Op.perform, if_pos hm.1, h.array, ← List.map_singleton, ← List.map_append]
  refine h.set fun x hx ↦ ?_
  rcases List.mem_append.mp hx with hx | hx
  · exact h.own x hx
  · exact List.mem_singleton.mp hx ▸ hm

/-- The models after one has been selected. -/
theorem select (h : Customs d models) (id : String) :
    Customs ((Op.select id).perform d) models := by
  rw [Op.perform]
  split
  · exact h.set_of_ne (by decide) _
  · exact h

/-- A model that is found is selected. -/
theorem selectedId_select (h : Customs d models) (hid : (found id d).isSome) :
    selectedId ((Op.select id).perform d) = id := by
  rw [Op.perform, if_pos hid, selectedId, h.isObject.get_set_self]
  rfl

end Customs

/-! ## The invariant -/

/-- What the user has added are models with ids of their own, and the selected model is one of the
list. -/
def Sane (d : Document) : Prop := (∃ models, Customs d models) ∧ (found (selectedId d) d).isSome

theorem sane_defaultSettings : Sane (.of defaultSettings) := by
  refine ⟨⟨[], Document.isObject_of rfl, rfl, by simp⟩, ?_⟩
  exact found_isSome_iff.mpr ⟨_, List.mem_append_left _ List.mem_cons_self, rfl⟩

namespace Sane

variable {d : Document} {id : String} {m : Model}

theorem select (h : Sane d) (id : String) : Sane ((Op.select id).perform d) := by
  obtain ⟨⟨models, hmodels⟩, hfound⟩ := h
  refine ⟨⟨models, hmodels.select id⟩, ?_⟩
  by_cases hid : (found id d).isSome
  · rw [hmodels.selectedId_select hid, found_isSome_iff, (hmodels.select id).listed,
      ← hmodels.listed]
    exact found_isSome_iff.mp hid
  · rwa [Op.perform, if_neg hid]

theorem add (h : Sane d) (hm : m.custom = true → ∀ b ∈ builtinModels, b.id ≠ m.id) :
    Sane ((Op.add m).perform d) := by
  by_cases hcustom : m.custom = true
  · obtain ⟨⟨models, hmodels⟩, hfound⟩ := h
    have hcustoms := hmodels.add ⟨hcustom, hm hcustom⟩
    refine ⟨⟨_, hcustoms⟩, ?_⟩
    have hsel : selectedId ((Op.add m).perform d) = selectedId d := by
      rw [Op.perform, if_pos hcustom, selectedId_set]
    rw [hsel, found_isSome_iff, hcustoms.listed, ← List.append_assoc, ← hmodels.listed]
    obtain ⟨x, hx, hid⟩ := found_isSome_iff.mp hfound
    exact ⟨x, List.mem_append_left _ hx, hid⟩
  · rwa [Op.perform, if_neg hcustom]

theorem exists_customs_remove (h : Sane d) (id : String) :
    ∃ models, Customs ((Op.remove id).perform d) models := by
  obtain ⟨⟨models, hmodels⟩, -⟩ := h
  by_cases hid : (found id d).any Model.custom = true
  · exact ⟨_, hmodels.remove (hmodels.found_any_custom_iff.mp hid)⟩
  · exact ⟨models, by rwa [Op.perform, if_neg fun hc ↦ hid hc.1]⟩

/-- A removal keeps the invariant if and only if it is not the selected model that goes. -/
theorem remove_iff (h : Sane d) : Sane ((Op.remove id).perform d) ↔
    ((found id d).any Model.custom = true → selectedId d ≠ id) := by
  obtain ⟨⟨models, hmodels⟩, hfound⟩ := h
  by_cases hid : (found id d).any Model.custom = true
  · have hmem := hmodels.found_any_custom_iff.mp hid
    have hcustoms := hmodels.remove hmem
    have hsel : selectedId ((Op.remove id).perform d) = selectedId d := by
      rw [hmodels.perform_remove hmem, selectedId_set]
    rw [Sane, hsel, found_isSome_iff, hcustoms.listed, and_iff_right ⟨_, hcustoms⟩,
      forall_prop_of_true hid]
    rw [found_isSome_iff, hmodels.listed] at hfound
    obtain ⟨m, hm, hown⟩ := hmem
    constructor
    · rintro ⟨x, hx, hxid⟩ rfl
      rcases List.mem_append.mp hx with hx | hx
      · exact (hmodels.own m hm).2 x hx (hxid.trans hown.symm)
      · exact absurd hxid (by simpa using (List.mem_filter.mp hx).2)
    · intro hne
      obtain ⟨x, hx, hxid⟩ := hfound
      refine ⟨x, ?_, hxid⟩
      rcases List.mem_append.mp hx with hx | hx
      · exact List.mem_append_left _ hx
      · refine List.mem_append_right _ (List.mem_filter.mpr ⟨hx, ?_⟩)
        simpa [hxid] using hne
  · rw [Op.perform, if_neg fun hc ↦ hid hc.1]
    exact iff_of_true ⟨⟨models, hmodels⟩, hfound⟩ fun hc ↦ absurd hc hid

end Sane

/-! ## What the calls answer -/

theorem accepted_iff {m : Model} {file : File} : Accepted m file ↔ m.custom = true := by
  rw [Accepted, addCustomModel]
  cases m.custom with
  | false =>
    refine iff_of_false (fun h ↦ ?_) Bool.false_ne_true
    cases h
  | true =>
    simp only [Bool.not_true, Bool.false_eq_true, if_false]
    rw [run_bind_of_ok (run_getSetting _ _), run_setSetting]
    exact iff_of_true rfl trivial

theorem view_step {file next : File} {call : Call} (h : step file call = some next) :
    view next = call.op.perform (view file) := by
  obtain rfl := Option.some.inj h
  exact view_run_call call.op file

/-- `remove_custom_model` looks for the model first. -/
theorem Removes.found_custom {id : String} {file : File} (h : Removes id file) :
    (found id (view file)).any Model.custom = true := by
  obtain ⟨after, hrun, -⟩ := h
  have hfind := run_findModel id file
  rw [removeCustomModel] at hrun
  cases hfound : found id (view file) with
  | none =>
    rw [hfound] at hfind
    rw [run_bind_of_error hfind] at hrun
    cases hrun
  | some m =>
    rw [hfound] at hfind
    rw [run_bind_of_ok hfind] at hrun
    cases hcustom : m.custom with
    | false =>
      rw [hcustom] at hrun
      cases hrun
    | true => exact hcustom

theorem run_listModels_fst (file : File) : (listModels.run file).1 = listed (view file) := by
  rw [run_listModels]

/-- Among models with ids of their own, a removal finds what it is to remove. -/
theorem run_removeCustomModel {id : String} {file : File} {models : List Model}
    (h : Customs (view file) models) (hid : ∃ m ∈ models, m.id = id) :
    ∃ after, (removeCustomModel id).run.run file = (.ok true, after) := by
  obtain ⟨m, hfound, hcustom⟩ : ∃ m, found id (view file) = some m ∧ m.custom = true := by
    simpa [Option.any_eq_true] using h.found_any_custom_iff.mpr hid
  have hfind := run_findModel id file
  rw [hfound] at hfind
  have hshort : ((customArray ((view file).get "custom_models")).filter (stays id)).length <
      (customArray ((view file).get "custom_models")).length := by
    obtain ⟨x, hx, hxid⟩ := hid
    rw [length_filter_stays_lt, h.array]
    exact ⟨x.toValue, List.mem_map_of_mem hx, by rw [stays_toValue]; simpa using hxid⟩
  rw [removeCustomModel, run_bind_of_ok hfind]
  simp only [hcustom, Bool.not_true, Bool.false_eq_true, if_false]
  rw [removeAdded, run_bind_of_ok (run_getSetting _ _), parsed_made, ← get_view, if_pos hshort,
    run_bind_of_ok (run_setSetting _ _ _)]
  exact ⟨_, rfl⟩

/-- **Among models with ids of their own, a removal does what is promised.** -/
theorem removes_of_customs {id : String} {file : File} {models : List Model}
    (h : Customs (view file) models) (hid : ∃ m ∈ models, m.id = id) : Removes id file := by
  obtain ⟨after, hrun⟩ := run_removeCustomModel h hid
  have hview : view after = (Op.remove id).perform (view file) := by
    rw [← view_run_call, Op.call, run_bind_of_ok hrun]
    rfl
  refine ⟨after, hrun, ?_⟩
  rw [run_listModels_fst, run_listModels_fst, hview, (h.remove hid).listed, h.listed,
    List.filter_append]
  have hbuiltin : builtinModels.filter (fun m ↦ ¬ (m.custom ∧ m.id = id)) = builtinModels :=
    List.filter_eq_self.mpr fun b hb ↦ by simp [builtin_not_custom b hb]
  have hmodels : models.filter (fun m ↦ ¬ (m.custom ∧ m.id = id)) =
      models.filter fun m ↦ m.id ≠ id :=
    List.filter_congr fun m hm ↦ by simp [(h.own m hm).1]
  rw [hbuiltin, hmodels]

/-! ## Histories -/

section Histories

variable {start file : File} {calls : List Call} {m : Model}

/-- What has been added and not removed, after one more call. -/
theorem added_concat {call : Call} (h : Added start (calls ++ [call]) m) :
    Added start calls m ∧ call ≠ .remove m.id ∨
      call = .add m ∧ ∃ file, Machine.exec step start calls = some file ∧ Accepted m file := by
  obtain ⟨pre, post, file, heq, hrun, hacc, hpost⟩ := h
  rcases post.eq_nil_or_concat' with rfl | ⟨post, last, rfl⟩
  · obtain ⟨rfl, hcall⟩ := List.append_inj' heq rfl
    exact Or.inr ⟨List.head_eq_of_cons_eq hcall, file, hrun, hacc⟩
  · rw [← List.cons_append, ← List.append_assoc] at heq
    obtain ⟨rfl, hcall⟩ := List.append_inj' heq rfl
    obtain rfl : call = last := List.head_eq_of_cons_eq hcall
    simp only [List.mem_append, List.mem_singleton, not_or] at hpost
    exact Or.inl ⟨⟨pre, post, file, rfl, hrun, hacc, hpost.1⟩, fun h ↦ hpost.2 h.symm⟩

/-- Only a call to remove a model takes it out of the settings. -/
theorem mem_customArray_perform {d : Document} (hobj : d.IsObject) {call : Call}
    (hcall : call ≠ .remove m.id) (hm : m.toValue ∈ customArray (d.get "custom_models")) :
    m.toValue ∈ customArray ((call.op.perform d).get "custom_models") := by
  cases call with
  | select id =>
    have hkey : (Op.select id).key ≠ "custom_models" := show "model" ≠ "custom_models" by decide
    rwa [Call.op, get_perform_of_ne hkey]
  | add x =>
    rw [Call.op, Op.perform]
    split
    · rw [hobj.get_set_self]
      exact List.mem_append_left _ hm
    · exact hm
  | remove id =>
    rw [Call.op, Op.perform]
    split
    · rw [hobj.get_set_self]
      refine List.mem_filter.mpr ⟨hm, ?_⟩
      rw [stays_toValue]
      exact decide_eq_true fun h ↦ hcall (by rw [h])
    · exact hm

/-- What has been added and not removed is there. -/
theorem mem_of_added (hstart : (view start).IsObject)
    (hrun : Machine.exec step start calls = some file) (hm : Added start calls m) :
    m.toValue ∈ customArray ((view file).get "custom_models") := by
  refine (Machine.history_of_exec (I := fun calls file ↦ (view file).IsObject ∧
    ∀ m, Added start calls m → m.toValue ∈ customArray ((view file).get "custom_models"))
    ⟨hstart, ?_⟩ ?_ hrun).2 m hm
  · rintro m ⟨pre, post, _, heq, -⟩
    simp at heq
  · rintro calls file call next ⟨hobj, hmem⟩ hstep
    rw [view_step hstep]
    refine ⟨isObject_perform hobj, fun m hm ↦ ?_⟩
    rcases added_concat hm with ⟨hm, hcall⟩ | ⟨rfl, file', -, hacc⟩
    · exact mem_customArray_perform hobj hcall (hmem m hm)
    · rw [Call.op, Op.perform, if_pos (accepted_iff.mp hacc), hobj.get_set_self]
      exact List.mem_append_right _ (List.mem_singleton_self _)

/-- The promise is kept in a sane state. -/
theorem Sane.consistent (hstart : (view start).IsObject)
    (hrun : Machine.exec step start calls = some file) (h : Sane (view file)) :
    Consistent start calls file := by
  obtain ⟨⟨models, hmodels⟩, hfound⟩ := h
  constructor
  · obtain ⟨m, hm⟩ := Option.isSome_iff_exists.mp hfound
    exact ⟨m, by rw [run_getSelectedModel, hm]; rfl⟩
  · intro m hm
    have hmem := mem_of_added hstart hrun hm
    rw [hmodels.array, List.mem_map] at hmem
    obtain ⟨x, hx, hval⟩ := hmem
    have hxm : x = m := Option.some.inj (by rw [← fromValue_toValue, hval, fromValue_toValue])
    exact removes_of_customs hmodels ⟨x, hx, congrArg _ hxm⟩

/-- An allowed call keeps the settings sane. -/
theorem Sane.step {next : File} {call : Call} (h : Sane (view file)) (hallowed : Allowed file call)
    (hstep : Selection.step file call = some next) : Sane (view next) := by
  rw [view_step hstep]
  cases call with
  | select id => exact h.select id
  | add m => exact h.add hallowed
  | remove id => exact h.remove_iff.mpr hallowed

/-- A selected model is found. -/
theorem found_of_selected (h : ∃ m, (getSelectedModel.run.run file).1 = .ok m) :
    (found (selectedId (view file)) (view file)).isSome := by
  obtain ⟨m, hm⟩ := h
  rw [run_getSelectedModel] at hm
  cases hfound : found (selectedId (view file)) (view file) with
  | none =>
    rw [hfound] at hm
    cases hm
  | some x => rfl

/-- A call that is not allowed breaks the promise. -/
theorem allowed_of_consistent {next : File} {call : Call}
    (hrun : Machine.exec step start calls = some file) (h : Sane (view file))
    (hstep : step file call = some next) (hnext : Consistent start (calls ++ [call]) next) :
    Allowed file call := by
  cases call with
  | select id => trivial
  | add m =>
    intro hcustom b hb hid
    have hadded : Added start (calls ++ [.add m]) m :=
      ⟨calls, [], file, rfl, hrun, accepted_iff.mpr hcustom, List.not_mem_nil⟩
    have hfound := (hnext.removes m hadded).found_custom
    rw [← hid, found_builtin hb] at hfound
    cases hfound
  | remove id =>
    have hfound := found_of_selected hnext.selected
    rw [view_step hstep] at hfound
    exact h.remove_iff.mp ⟨h.exists_customs_remove id, hfound⟩

/-- A model that is removed while it is selected leaves no selected model. -/
theorem not_selected_of_removed {models : List Model} (h : Customs (view start) models)
    (hm : IsOwn m)
    (hrun : Machine.exec step start [.add m, .select m.id, .remove m.id] = some file) :
    ¬ ∃ m, (getSelectedModel.run.run file).1 = .ok m := by
  obtain ⟨f₁, hadd, hrun⟩ := Machine.exec_cons_eq_some.mp hrun
  obtain ⟨f₂, hselect, hrun⟩ := Machine.exec_cons_eq_some.mp hrun
  obtain ⟨f₃, hremove, hrun⟩ := Machine.exec_cons_eq_some.mp hrun
  obtain rfl := Option.some.inj hrun
  have h₁ : Customs (view f₁) (models ++ [m]) := view_step hadd ▸ h.add hm
  have h₂ : Customs (view f₂) (models ++ [m]) := view_step hselect ▸ h₁.select m.id
  have hthere : ∃ x ∈ models ++ [m], x.id = m.id := ⟨m, by simp, rfl⟩
  have hfound : (found m.id (view f₁)).isSome :=
    found_isSome_iff.mpr ⟨m, by simp [h₁.listed], rfl⟩
  have hid : selectedId (view f₂) = m.id := view_step hselect ▸ h₁.selectedId_select hfound
  have hsane : Sane (view f₂) := by
    refine ⟨⟨_, h₂⟩, found_isSome_iff.mpr ⟨m, by simp [h₂.listed], hid.symm⟩⟩
  intro hsel
  have hsel := found_of_selected hsel
  rw [view_step hremove] at hsel
  exact hsane.remove_iff.mp ⟨hsane.exists_customs_remove _, hsel⟩
    (h₂.found_any_custom_iff.mpr hthere) hid

end Histories

/-- **The promise is kept all along a run** that starts from the default settings if and only if no
model with an id of the program is added, and no model is removed while it is selected. -/
theorem consistent_iff_guarded {start : File} (hstart : view start = .of defaultSettings)
    (calls : List Call) :
    (∀ pre post file, calls = pre ++ post → Machine.exec step start pre = some file →
      Consistent start pre file) ↔ Machine.Guarded step Allowed start calls := by
  have hsane : Sane (view start) := by
    rw [hstart]
    exact sane_defaultSettings
  have hobj : (view start).IsObject := by
    rw [hstart]
    exact Document.isObject_of rfl
  obtain ⟨last, hrun⟩ := Machine.exists_exec_eq_some (fun _ _ ↦ ⟨_, rfl⟩) start calls
  refine Machine.forall_history_iff_guarded (N := fun _ _ ↦ True) (I := fun file ↦ Sane (view file))
    (fun _ _ _ h _ hallowed hstep ↦ h.step hallowed hstep)
    (fun _ _ hpre h ↦ h.consistent hobj hpre)
    (fun _ _ _ _ hpre h hstep hnext ↦ allowed_of_consistent hpre h hstep hnext) hsane
    (Machine.guarded_of_forall_mem (fun _ _ _ ↦ trivial) start) hrun

/-- A model that the user adds. -/
def exampleModel (id : String) : Model :=
  ⟨id, "My Model", "TestCo", 32000, 128000, "A test model", true⟩

/-- A model is added, and removed while another one is selected. -/
theorem consistent_iff_guarded_example :
    (∀ pre post file, [.add (exampleModel "my-model"), .select "o3", .remove "my-model"] =
        pre ++ post → Machine.exec step none pre = some file → Consistent none pre file) ∧
      Machine.Guarded step Allowed none
        [.add (exampleModel "my-model"), .select "o3", .remove "my-model"] := by
  have hguarded : Machine.Guarded step Allowed none
      [.add (exampleModel "my-model"), .select "o3", .remove "my-model"] := by
    refine ⟨fun _ ↦ by decide, fun _ h₁ ↦ ⟨trivial, fun _ h₂ ↦ ⟨fun _ ↦ ?_, fun _ _ ↦ trivial⟩⟩⟩
    cases h₁
    cases h₂
    decide
  have hstart : view none = .of defaultSettings := rfl
  exact ⟨(consistent_iff_guarded hstart _).mpr hguarded, hguarded⟩

/-- **The promise is not kept**: a model is added, selected and removed, and there is no selected
model. -/
theorem not_forall_consistent : ¬ ∀ (start : File) (calls : List Call) (file : File),
    view start = .of defaultSettings → Machine.exec step start calls = some file →
      Consistent start calls file := by
  intro hall
  have hdefault : Customs (view none) [] := ⟨Document.isObject_of rfl, rfl, by simp⟩
  have hown : IsOwn (exampleModel "my-model") := ⟨rfl, by decide⟩
  have hstep : ∀ file call, ∃ next, step file call = some next := fun _ _ ↦ ⟨_, rfl⟩
  obtain ⟨file, hrun⟩ := Machine.exists_exec_eq_some hstep none
    [.add (exampleModel "my-model"), .select "my-model", .remove "my-model"]
  exact not_selected_of_removed hdefault hown hrun (hall none _ file rfl hrun).selected

end WorkWithMe.Server.Selection
