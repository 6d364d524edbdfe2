import WorkWithMe.Lib.Lineage
import WorkWithMe.Pi.Session

/-!
# What a session keeps

A session that nobody else has written is `Sound`: its entries came about one after the other, what
it keeps beside them is what can be computed from them, and it is marked as one without branches
only if each entry goes on from the one before it and the last one is the leaf.

* `Session.Sound.append`, `Session.Sound.navigateTo` and the lemmas beside them are the operations.
* `Session.Sound.ensureEntryIds` says that nothing new is computed by the pass over all entries.
* `Session.Sound.entriesForCurrentPath_eq`, `Session.Sound.getPathToEntry_eq` and
  `Session.Sound.planForkFromUserMessage_eq` say what the two ways to a path have in common.
-/

set_option autoImplicit false

namespace WorkWithMe.Pi

open Lineage

/-! ## Entries -/

/-- The identifier of an entry that has one. -/
def SessionEntry.key (e : SessionEntry) : String := e.id.getD ""

/-- What leads to an entry, or to none. -/
def leadingTo (entries : List SessionEntry) (id : Option String) : List SessionEntry :=
  lineage SessionEntry.key SessionEntry.parentId entries id

/-- The name that the last entry with a name gives. -/
def lastName (entries : List SessionEntry) : Option String :=
  (entries.filterMap SessionEntry.info?).getLast?

theorem lastName_concat (l : List SessionEntry) (e : SessionEntry) :
    lastName (l ++ [e]) = e.info?.or (lastName l) := by
  rw [lastName, List.filterMap_append, List.getLast?_append]
  cases h : e.info? <;> simp [lastName, h]

/-- Each entry has an identifier. -/
def Named (entries : List SessionEntry) : Prop := ∀ e ∈ entries, e.id = some e.key

variable {l : List SessionEntry} {e : SessionEntry} {s : Session}

theorem Named.entryIdSet_eq (h : Named l) : entryIdSet l = l.map SessionEntry.key := by
  rw [entryIdSet, ← List.filterMap_eq_map]
  exact List.filterMap_congr h

theorem Named.assignEntryIds_eq (h : Named l) (uuid : ℕ → ℕ → String) (existing : List String) :
    assignEntryIds uuid existing l = l := by
  induction l with
  | nil => rfl
  | cons e l ih =>
    obtain ⟨he, h⟩ := List.forall_mem_cons.mp h
    rw [assignEntryIds, he, ih h]

/-- A new identifier, if a UUID is not drawn twice. -/
theorem generateEntryId_notMem {existing : List String} {uuid : ℕ → String}
    (hnew : uuid 100 ∉ existing) : generateEntryId existing uuid ∉ existing := by
  rw [generateEntryId]
  cases h : List.find? (· ∉ existing) ((List.range 100).map fun i ↦ ((uuid i).take 8).copy) with
  | none => exact hnew
  | some id => simpa using List.find?_some h

/-! ## Soundness -/

/-- What a session has is what its entries say. -/
structure Session.Sound (s : Session) : Prop where
  named : Named s.entries
  grown : Grown SessionEntry.key SessionEntry.parentId s.entries
  index : ∀ k, s.entryIndex k = s.entries.findIdx? fun e ↦ e.key = k
  ids : ∀ k, k ∈ s.entryIds ↔ k ∈ s.entries.map SessionEntry.key
  leaf : ∀ k ∈ s.leafId, k ∈ s.entries.map SessionEntry.key
  linear : s.isLinear = true → Straight SessionEntry.key SessionEntry.parentId s.entries ∧
    s.leafId = s.entries.getLast?.map SessionEntry.key
  count : s.cachedMessageCount = s.entries.countP SessionEntry.isMessage
  name : s.cachedName = lastName s.entries

theorem Session.sound_create (header : SessionHeader) (n : ℕ) :
    (Session.create header n).Sound where
  named := nofun
  grown := .nil
  index _ := rfl
  ids _ := Iff.rfl
  leaf := nofun
  linear _ := ⟨straight_nil, rfl⟩
  count := rfl
  name := rfl

/-- What the index says after an entry was added. -/
theorem update_findIdx?_concat (hnew : e.key ∉ l.map SessionEntry.key) (k : String) :
    Function.update (fun k ↦ l.findIdx? fun e ↦ e.key = k) e.key (some l.length) k =
      (l ++ [e]).findIdx? fun e ↦ e.key = k := by
  rw [List.findIdx?_append, Function.update_apply]
  split
  · rename_i hk
    subst hk
    have hnone : l.findIdx? (fun b ↦ b.key = e.key) = none := by
      rw [List.findIdx?_eq_none_iff]
      exact fun b hb ↦ by simpa using fun heq ↦ hnew (List.mem_map.mpr ⟨b, hb, heq⟩)
    rw [hnone]
    simp [List.findIdx?_cons]
  · rename_i hk
    simp [List.findIdx?_cons, Ne.symm hk]

namespace Session.Sound

/-! ## Entries that are added -/

/-- **An entry is added.**  Its kind decides on what is counted and on the name. -/
theorem append_of_eq (h : s.Sound) {uuid : ℕ → String} (hnew : uuid 100 ∉ s.entryIds)
    {payload : Payload} {n : ℕ} {name : Option String}
    (hn : n = s.cachedMessageCount +
      if (⟨none, none, payload⟩ : SessionEntry).isMessage then 1 else 0)
    (hname : name = (⟨none, none, payload⟩ : SessionEntry).info?.or s.cachedName) :
    Sound { s.append uuid payload with cachedMessageCount := n, cachedName := name } := by
  have hid : s.nextEntryId uuid ∉ s.entries.map SessionEntry.key := fun hmem ↦
    generateEntryId_notMem hnew ((h.ids _).mpr hmem)
  constructor
  case named =>
    intro e he
    rcases List.mem_append.mp he with he | he
    · exact h.named e he
    · rw [List.mem_singleton.mp he]
      rfl
  case grown => exact h.grown.concat hid h.leaf
  case index =>
    intro k
    refine Eq.trans ?_ (update_findIdx?_concat
      (e := ⟨some (s.nextEntryId uuid), s.leafId, payload⟩) hid k)
    exact congrFun (congrArg (Function.update · _ _) (funext h.index)) k
  case ids =>
    intro k
    rw [Session.append, List.mem_cons, h.ids, List.map_append, List.mem_append, or_comm,
      List.map_singleton, List.mem_singleton]
    rfl
  case leaf =>
    rintro k ⟨⟩
    simp [Session.append, SessionEntry.key]
  case linear =>
    intro hlinear
    obtain ⟨hstraight, hleaf⟩ := h.linear hlinear
    exact ⟨straight_concat_iff.mpr ⟨hstraight, hleaf⟩, by simp [Session.append, SessionEntry.key]⟩
  case count =>
    rw [hn, h.count, Session.append, List.countP_append, List.countP_singleton]
    rfl
  case name =>
    rw [hname, h.name, Session.append, lastName_concat]
    rfl

/-- An entry is added that is neither a message nor has a name. -/
theorem append (h : s.Sound) {uuid : ℕ → String} (hnew : uuid 100 ∉ s.entryIds) {payload : Payload}
    (hmessage : (⟨none, none, payload⟩ : SessionEntry).isMessage = false)
    (hinfo : (⟨none, none, payload⟩ : SessionEntry).info? = none) : (s.append uuid payload).Sound :=
  h.append_of_eq hnew (by simp [hmessage]) (by simp [hinfo])

theorem appendMessage (h : s.Sound) {uuid : ℕ → String} (hnew : uuid 100 ∉ s.entryIds)
    (m : SessionMessage) : (s.appendMessage uuid m).Sound :=
  h.append_of_eq hnew rfl rfl

theorem appendSessionInfo (h : s.Sound) {uuid : ℕ → String} (hnew : uuid 100 ∉ s.entryIds)
    (name : Option String) : (s.appendSessionInfo uuid name).Sound :=
  h.append_of_eq hnew rfl rfl

/-! ## The leaf and the header -/

/-- What does not touch the entries, nor what is kept beside them. -/
theorem congr (h : s.Sound) {t : Session} (hentries : t.entries = s.entries)
    (hindex : t.entryIndex = s.entryIndex) (hids : t.entryIds = s.entryIds)
    (hcount : t.cachedMessageCount = s.cachedMessageCount) (hname : t.cachedName = s.cachedName)
    (hleaf : ∀ k ∈ t.leafId, k ∈ s.entries.map SessionEntry.key)
    (hlinear : t.isLinear = true → s.isLinear = true ∧
      t.leafId = s.entries.getLast?.map SessionEntry.key) : t.Sound where
  named := hentries ▸ h.named
  grown := hentries ▸ h.grown
  index := by rw [hindex, hentries]; exact h.index
  ids := by rw [hids, hentries]; exact h.ids
  leaf := by rw [hentries]; exact hleaf
  linear ht := by
    obtain ⟨hs, hleaf⟩ := hlinear ht
    rw [hentries]
    exact ⟨(h.linear hs).1, hleaf⟩
  count := by rw [hcount, hentries, h.count]
  name := by rw [hname, hentries, h.name]

/-- The last entry, by its identifier. -/
theorem getLast?_bind_id (h : s.Sound) :
    s.entries.getLast?.bind SessionEntry.id = s.entries.getLast?.map SessionEntry.key := by
  cases hlast : s.entries.getLast? with
  | none => rfl
  | some e => exact h.named e (List.mem_of_getLast? hlast)

theorem isSome_entryIndex_iff (h : s.Sound) (k : String) :
    (s.entryIndex k).isSome = true ↔ k ∈ s.entries.map SessionEntry.key := by
  rw [h.index, List.findIdx?_isSome, List.any_eq_true, List.mem_map]
  simp

theorem navigateTo (h : s.Sound) {id : String} {t : Session} (ht : s.navigateTo id = some t) :
    t.Sound := by
  rw [Session.navigateTo] at ht
  split at ht
  · rename_i hid
    cases ht
    refine h.congr rfl rfl rfl rfl rfl ?_ fun hlinear ↦ ?_
    · rintro k ⟨⟩
      exact (h.isSome_entryIndex_iff id).mp hid
    · obtain ⟨hs, hlast⟩ := Bool.and_eq_true_iff.mp hlinear
      exact ⟨hs, (of_decide_eq_true hlast).symm.trans h.getLast?_bind_id⟩
  · cases ht

theorem resetLeaf (h : s.Sound) : s.resetLeaf.Sound :=
  h.congr rfl rfl rfl rfl rfl nofun nofun

theorem setModelHeader (h : s.Sound) (provider modelId thinkingLevel : Option String) :
    (s.setModelHeader provider modelId thinkingLevel).Sound :=
  h.congr rfl rfl rfl rfl rfl h.leaf fun hlinear ↦ ⟨hlinear, (h.linear hlinear).2⟩

theorem setBranchedFrom (h : s.Sound) (path : Option String) : (s.setBranchedFrom path).Sound :=
  h.congr rfl rfl rfl rfl rfl h.leaf fun hlinear ↦ ⟨hlinear, (h.linear hlinear).2⟩

end Session.Sound

/-! ## The pass over the entries -/

theorem LoadFinalization.scan_concat (ids : List String) (f : LoadFinalization)
    (l : List SessionEntry) (e : SessionEntry) (idx : ℕ) :
    f.scan ids (l ++ [e]) idx = (f.scan ids l idx).add ids e (idx + l.length) := by
  induction l generalizing f idx with
  | nil => rfl
  | cons a l ih =>
    rw [List.cons_append, scan, ih, scan, List.length_cons]
    congr 1
    omega

/-- What the pass begins with. -/
def LoadFinalization.empty : LoadFinalization :=
  ⟨none, fun _ ↦ none, 0, none, [], fun _ ↦ 0, false⟩

/-- **What the pass finds** in entries that came about one after the other. -/
structure LoadFinalization.Finds (f : LoadFinalization) (l : List SessionEntry) : Prop where
  leaf : f.leafId = l.getLast?.map SessionEntry.key
  index : ∀ k, f.entryIndex k = l.findIdx? fun e ↦ e.key = k
  count : f.messageCount = l.countP SessionEntry.isMessage
  name : f.name = lastName l
  orphans : f.orphans = []
  branching : f.hasBranching = false ↔ (l.map SessionEntry.parentId).Nodup
  children : f.hasBranching = false →
    ∀ p, f.childCount p = (l.map SessionEntry.parentId).count p

theorem LoadFinalization.finds_add {f : LoadFinalization} {ids : List String} (h : f.Finds l)
    (he : e.id = some e.key) (hnew : e.key ∉ l.map SessionEntry.key)
    (hparent : ∀ p ∈ e.parentId, p ∈ ids) : (f.add ids e l.length).Finds (l ++ [e]) := by
  have hcount (hb : f.hasBranching = false) :
      f.childCount e.parentId = (l.map SessionEntry.parentId).count e.parentId :=
    h.children hb e.parentId
  simp only [LoadFinalization.add, he]
  constructor
  case leaf => simp
  case index =>
    intro k
    rw [← update_findIdx?_concat hnew]
    exact congrFun (congrArg (Function.update · _ _) (funext h.index)) k
  case count =>
    rw [List.countP_append, List.countP_singleton, ← h.count]
    cases e.isMessage <;> rfl
  case name => rw [lastName_concat, h.name]
  case orphans =>
    cases hp : e.parentId with
    | none => simp [h.orphans]
    | some p => simp [h.orphans, hparent p hp]
  case branching =>
    rw [List.map_append, List.map_singleton, ← List.concat_eq_append, List.nodup_concat,
      ← h.branching, Bool.or_eq_false_iff, and_comm]
    refine and_congr_left fun hb ↦ ?_
    rw [hcount hb, decide_eq_false_iff_not, ← List.count_eq_zero]
    omega
  case children =>
    intro hb p
    have hf := (Bool.or_eq_false_iff.mp hb).1
    rw [List.map_append, List.map_singleton, List.count_append, List.count_singleton,
      ← h.children hf p]
    simp only [hf, Bool.false_eq_true, if_false, Function.update_apply, beq_iff_eq]
    by_cases hp : p = e.parentId
    · subst hp
      simp
    · simp [hp, Ne.symm hp]

theorem LoadFinalization.finds_scan {ids : List String} (hnamed : Named l)
    (hgrown : Grown SessionEntry.key SessionEntry.parentId l)
    (hids : ∀ k ∈ l.map SessionEntry.key, k ∈ ids) : (LoadFinalization.empty.scan ids l 0).Finds l := by
  induction hgrown with
  | nil => exact ⟨rfl, fun _ ↦ rfl, rfl, rfl, rfl, by simp [scan, empty], fun _ _ ↦ rfl⟩
  | @concat l e h hnew hparent ih =>
    rw [LoadFinalization.scan_concat, Nat.zero_add]
    have hmem {k : String} (hk : k ∈ l.map SessionEntry.key) : k ∈ ids :=
      hids k (by rw [List.map_append]; exact List.mem_append_left _ hk)
    exact finds_add (ih (fun e he ↦ hnamed e (List.mem_append_left _ he)) fun _ ↦ hmem)
      (hnamed e (by simp)) hnew fun p hp ↦ hmem (hparent p hp)

/-- **The pass computes nothing new** for a session that is sound, but it may find that there are no
branches any more. -/
theorem Session.Sound.ensureEntryIds (h : s.Sound) (uuid : ℕ → ℕ → String) :
    (s.ensureEntryIds uuid).Sound ∧ (s.ensureEntryIds uuid).entries = s.entries ∧
      (s.ensureEntryIds uuid).entryIndex = s.entryIndex ∧
      (∀ k, k ∈ (s.ensureEntryIds uuid).entryIds ↔ k ∈ s.entryIds) ∧
      (s.ensureEntryIds uuid).cachedMessageCount = s.cachedMessageCount ∧
      (s.ensureEntryIds uuid).cachedName = s.cachedName ∧
      (s.isLinear = true → (s.ensureEntryIds uuid).isLinear = true) := by
  have hentries : assignEntryIds uuid (entryIdSet s.entries) s.entries = s.entries :=
    h.named.assignEntryIds_eq _ _
  have hids := h.named.entryIdSet_eq
  have hfinds : (LoadFinalization.empty.scan (entryIdSet s.entries) s.entries 0).Finds s.entries :=
    LoadFinalization.finds_scan h.named h.grown fun k hk ↦ hids ▸ hk
  have hfinal : finalizeLoadedEntries uuid s.entries =
      (s.entries, LoadFinalization.empty.scan (entryIdSet s.entries) s.entries 0) := by
    rw [finalizeLoadedEntries, hentries]
    rfl
  have hindex := funext fun k ↦ (hfinds.index k).trans (h.index k).symm
  have hmem (k : String) : k ∈ entryIdSet s.entries ↔ k ∈ s.entryIds := by rw [hids, h.ids]
  simp only [Session.ensureEntryIds, hfinal]
  refine ⟨⟨h.named, h.grown, hfinds.index, fun k ↦ by rw [hids], h.leaf, fun hlinear ↦ ?_,
    hfinds.count, hfinds.name⟩, trivial, hindex, hmem, hfinds.count.trans h.count.symm,
    hfinds.name.trans h.name.symm, fun hlinear ↦ ?_⟩
  · rw [Bool.and_eq_true, Bool.not_eq_true', hfinds.branching, ← h.grown.straight_iff,
      decide_eq_true_eq, hfinds.leaf] at hlinear
    exact hlinear
  · obtain ⟨hstraight, hleaf⟩ := h.linear hlinear
    rw [Bool.and_eq_true, Bool.not_eq_true', hfinds.branching, ← h.grown.straight_iff,
      decide_eq_true_eq, hfinds.leaf]
    exact ⟨hstraight, hleaf⟩

/-! ## Paths -/

namespace Session.Sound

/-- The index of an entry is how many there are before it. -/
theorem entryIndex_append_cons (h : s.Sound) {pre post : List SessionEntry}
    (hl : s.entries = pre ++ e :: post) : s.entryIndex e.key = some pre.length := by
  have hnodup := h.grown.nodup
  rw [hl, List.map_append, List.map_cons, List.nodup_append] at hnodup
  have hnone : pre.findIdx? (fun b ↦ b.key = e.key) = none := by
    rw [List.findIdx?_eq_none_iff]
    intro b hb
    simpa using hnodup.2.2 _ (List.mem_map_of_mem hb) _ List.mem_cons_self
  rw [h.index, hl, List.findIdx?_append, hnone]
  simp [List.findIdx?_cons]

theorem take_entries {pre post : List SessionEntry} (hl : s.entries = pre ++ e :: post) :
    s.entries.take (pre.length + 1) = pre ++ [e] := by
  rw [hl, List.append_cons]
  exact List.take_left' (by simp)

theorem getEntry_of_mem (h : s.Sound) (he : e ∈ s.entries) : s.getEntry e.key = some e := by
  obtain ⟨pre, post, hl⟩ := List.append_of_mem he
  rw [getEntry, h.entryIndex_append_cons hl, hl]
  simp

theorem getEntry_of_notMem (h : s.Sound) {k : String} (hk : k ∉ s.entries.map SessionEntry.key) :
    s.getEntry k = none := by
  have := mt (h.isSome_entryIndex_iff k).mp hk
  rw [Bool.not_eq_true, Option.isSome_eq_false_iff, Option.isNone_iff_eq_none] at this
  rw [getEntry, this]
  rfl

theorem length_leadingTo_le (l : List SessionEntry) (id : Option String) :
    (leadingTo l id).length ≤ l.length := (lineage_sublist l id).length_le

/-- The identifiers on a path are different. -/
theorem nodup_leadingTo (h : s.Sound) (id : Option String) :
    ((leadingTo s.entries id).map SessionEntry.key).Nodup :=
  h.grown.nodup.sublist ((lineage_sublist s.entries id).map _)

/-- **From an entry to its parent.** -/
theorem leadingTo_of_mem (h : s.Sound) (he : e ∈ s.entries) :
    leadingTo s.entries (some e.key) = leadingTo s.entries e.parentId ++ [e] :=
  lineage_of_mem h.grown he

/-- What was visited is not met again. -/
theorem notMem_leadingTo_parent (h : s.Sound) (he : e ∈ s.entries) {visited : List String}
    (hvisited : ∀ k ∈ visited, k ∉ (leadingTo s.entries (some e.key)).map SessionEntry.key) :
    e.key ∉ visited ∧
      ∀ k ∈ e.key :: visited, k ∉ (leadingTo s.entries e.parentId).map SessionEntry.key := by
  have hnodup := h.nodup_leadingTo (some e.key)
  rw [h.leadingTo_of_mem he, List.map_append, List.map_singleton] at hnodup hvisited
  refine ⟨fun hmem ↦ hvisited _ hmem (by simp), ?_⟩
  rw [List.forall_mem_cons]
  refine ⟨fun hmem ↦ ?_, fun k hk hmem ↦ hvisited k hk (List.mem_append_left _ hmem)⟩
  exact (List.nodup_append.mp hnodup).2.2 _ hmem _ (List.mem_singleton_self _) rfl

/-- The search for the entries, which nothing interrupts. -/
theorem collectEntries_eq (h : s.Sound) {n : ℕ} {visited : List String} {id : Option String}
    (hn : (leadingTo s.entries id).length < n)
    (hvisited : ∀ k ∈ visited, k ∉ (leadingTo s.entries id).map SessionEntry.key)
    (path : List SessionEntry) :
    s.collectEntries n visited id path = path ++ (leadingTo s.entries id).reverse := by
  induction n generalizing visited id path with
  | zero => exact absurd hn (Nat.not_lt_zero _)
  | succ n ih =>
    cases id with
    | none => simp [collectEntries, leadingTo]
    | some id =>
      by_cases hid : id ∈ s.entries.map SessionEntry.key
      · obtain ⟨e, he, rfl⟩ := List.mem_map.mp hid
        obtain ⟨hnew, hvisited⟩ := h.notMem_leadingTo_parent he hvisited
        rw [h.leadingTo_of_mem he] at hn ⊢
        rw [collectEntries, if_neg hnew, h.getEntry_of_mem he]
        simp only
        rw [ih (by simpa using hn) hvisited]
        simp
      · have hnil : leadingTo s.entries (some id) = [] := lineage_of_notMem hid
        rw [collectEntries, h.getEntry_of_notMem hid, hnil]
        simp

/-- The search for the identifiers. -/
theorem collectIds_eq (h : s.Sound) {n : ℕ} {visited : List String} {id : Option String}
    (hid : ∀ k ∈ id, k ∈ s.entries.map SessionEntry.key)
    (hn : (leadingTo s.entries id).length < n)
    (hvisited : ∀ k ∈ visited, k ∉ (leadingTo s.entries id).map SessionEntry.key)
    (path : List String) : s.collectIds n visited id path =
      path ++ ((leadingTo s.entries id).map SessionEntry.key).reverse := by
  induction n generalizing visited id path with
  | zero => exact absurd hn (Nat.not_lt_zero _)
  | succ n ih =>
    cases id with
    | none => simp [collectIds, leadingTo]
    | some id =>
      obtain ⟨e, he, rfl⟩ := List.mem_map.mp (hid id rfl)
      obtain ⟨hnew, hvisited⟩ := h.notMem_leadingTo_parent he hvisited
      rw [h.leadingTo_of_mem he] at hn ⊢
      rw [collectIds, if_neg hnew, h.getEntry_of_mem he, Option.bind_some,
        ih (h.grown.parent_mem he) (by simpa using hn) hvisited]
      simp

/-- All of a session without branches leads to its leaf. -/
theorem leadingTo_leaf (h : s.Sound) (hlinear : s.isLinear = true) :
    leadingTo s.entries s.leafId = s.entries := by
  obtain ⟨hstraight, hleaf⟩ := h.linear hlinear
  rw [hleaf]
  exact lineage_of_straight hstraight

/-- In a session without branches, everything before an entry leads to it. -/
theorem leadingTo_append_cons (h : s.Sound) (hlinear : s.isLinear = true)
    {pre post : List SessionEntry} (hl : s.entries = pre ++ e :: post) :
    leadingTo s.entries (some e.key) = pre ++ [e] := by
  have hgrown := h.grown
  have hstraight := (h.linear hlinear).1
  rw [hl] at hgrown hstraight ⊢
  exact lineage_straight_append hgrown hstraight

/-- **The current path** leads to the leaf, and the short way to it is the long one. -/
theorem entriesForCurrentPath_eq (h : s.Sound) :
    s.entriesForCurrentPath = leadingTo s.entries s.leafId := by
  rw [entriesForCurrentPath]
  cases hleaf : s.leafId with
  | none => exact lineage_none.symm
  | some id =>
    simp only
    split
    · rename_i hlinear
      rw [← hleaf, h.leadingTo_leaf hlinear]
    · rw [h.collectEntries_eq (Nat.lt_succ_of_le (length_leadingTo_le _ _)) (by simp),
        List.nil_append, List.reverse_reverse]

/-- **The path to an entry**, by its identifiers. -/
theorem getPathToEntry_eq (h : s.Sound) (he : e ∈ s.entries) :
    s.getPathToEntry e.key = (leadingTo s.entries (some e.key)).map SessionEntry.key := by
  obtain ⟨pre, post, hl⟩ := List.append_of_mem he
  rw [getPathToEntry]
  split
  · rename_i idx hidx
    split at hidx
    · rename_i hlinear
      rw [h.entryIndex_append_cons hl] at hidx
      cases hidx
      rw [h.leadingTo_append_cons hlinear hl, take_entries hl]
      refine Named.entryIdSet_eq fun b hb ↦ h.named b ?_
      rw [hl, List.append_cons]
      exact List.mem_append_left _ hb
    · cases hidx
  · rw [h.collectIds_eq (by simpa using ⟨e, he, rfl⟩)
      (Nat.lt_succ_of_le ((length_leadingTo_le _ _).trans (Nat.le_succ _))) (by simp),
      List.nil_append, List.reverse_reverse]

/-- **What a provider gets** is what is on the path to the leaf. -/
theorem toMessagesForCurrentPath_eq (h : s.Sound) :
    s.toMessagesForCurrentPath = toMessagesFromPath (leadingTo s.entries s.leafId) := by
  rw [toMessagesForCurrentPath]
  cases hleaf : s.leafId with
  | none => rw [leadingTo, lineage_none]; rfl
  | some id =>
    simp only
    split
    · rename_i hlinear
      rw [← hleaf, h.leadingTo_leaf hlinear]
    · rw [h.entriesForCurrentPath_eq, hleaf]

/-- **What a provider gets** after the user has gone to an entry. -/
theorem navigateTo_messages (h : s.Sound) (he : e ∈ s.entries) :
    (s.navigateTo e.key).map toMessagesForCurrentPath =
      some (toMessagesFromPath (leadingTo s.entries (some e.key))) := by
  have hid : (s.entryIndex e.key).isSome = true :=
    (h.isSome_entryIndex_iff e.key).mpr (List.mem_map_of_mem he)
  cases ht : s.navigateTo e.key with
  | none => simp [Session.navigateTo, hid] at ht
  | some t =>
    rw [Option.map_some, (h.navigateTo ht).toMessagesForCurrentPath_eq]
    rw [Session.navigateTo, if_pos hid] at ht
    cases ht
    rfl

/-! ## Forks -/

/-- Entries are found by their identifiers. -/
theorem mapM_getEntry (h : s.Sound) {path : List SessionEntry} (hpath : ∀ e ∈ path, e ∈ s.entries) :
    ((path.map SessionEntry.key).mapM fun id ↦
      match s.getEntry id with
      | some e => .ok e
      | none => .error ("Failed to build fork: missing entry " ++ id)) =
        (.ok path : Except String (List SessionEntry)) := by
  induction path with
  | nil => rfl
  | cons e path ih =>
    obtain ⟨he, hpath⟩ := List.forall_mem_cons.mp hpath
    rw [List.map_cons, List.mapM_cons, h.getEntry_of_mem he, ih hpath]
    rfl

/-- **A fork takes along** what leads to the parent, and it never fails. -/
theorem forkEntries_eq (h : s.Sound) {id : Option String}
    (hid : ∀ k ∈ id, k ∈ s.entries.map SessionEntry.key) :
    s.forkEntries id = .ok (leadingTo s.entries id) := by
  cases id with
  | none => rw [forkEntries, leadingTo, lineage_none]
  | some id =>
    obtain ⟨e, he, rfl⟩ := List.mem_map.mp (hid id rfl)
    rw [forkEntries]
    split
    · rename_i hlinear
      obtain ⟨pre, post, hl⟩ := List.append_of_mem he
      rw [h.entryIndex_append_cons hl, h.leadingTo_append_cons hlinear hl]
      simp only [take_entries hl]
    · rw [h.getPathToEntry_eq he]
      exact h.mapM_getEntry fun e he ↦ (lineage_sublist _ _).subset he

/-- **A plan of a fork** has what leads to the message, but not the message. -/
theorem planForkFromUserMessage_eq (h : s.Sound) (he : e ∈ s.entries) {content : UserContent}
    (hcontent : e.payload = .message (.user content)) :
    s.planForkFromUserMessage e.key = .ok ⟨(leadingTo s.entries (some e.key)).dropLast,
      e.parentId, userContentToText content⟩ := by
  rw [planForkFromUserMessage, h.getEntry_of_mem he, h.leadingTo_of_mem he, List.dropLast_concat]
  simp only [hcontent, h.forkEntries_eq (h.grown.parent_mem he)]
  rfl

end Session.Sound

end WorkWithMe.Pi
