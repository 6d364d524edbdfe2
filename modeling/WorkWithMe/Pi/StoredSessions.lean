import WorkWithMe.Lib.Machine
import WorkWithMe.Pi.KeptMessages
import WorkWithMe.Pi.SessionFile

/-!
# Sessions and their files

What is known of a session and of its file whatever is done to them, in whatever order: entries are
added, the leaf goes somewhere else, the session is saved, which may fail, or it is closed and read
from its file.

* `Stored.Filed` says what is in the file.  It is lost when a write at the end of the file fails, and
  it is back when the whole file was written.
* `openJsonl_fileText` says what is read from such a file.
* `StoredRun.step` are the steps, and `StoredRun.kept_of_exec` says what every run of them keeps.
* `StoredRun.entries_of_exec` says that entries are only added.
-/

set_option autoImplicit false

namespace WorkWithMe.Pi

open Lineage Machine

/-! ## What may be done to a session -/

/-- What may be done to a session.  Nothing happens if an entry is named that is not there. -/
inductive SessionAction where
  | append (uuid : ℕ → String) (payload : Payload)
  | navigateTo (id : String)
  | resetLeaf
  | setModelHeader (provider modelId thinkingLevel : Option String)
  | setBranchedFrom (path : Option String)
  | ensureEntryIds (uuid : ℕ → ℕ → String)

/-- The function that adds an entry of this kind. -/
def Session.add (s : Session) (uuid : ℕ → String) : Payload → Session
  | .message message => s.appendMessage uuid message
  | .modelChange provider modelId => s.appendModelChange uuid provider modelId
  | .thinkingLevelChange level => s.appendThinkingLevelChange uuid level
  | .compaction compaction => s.appendCompaction uuid compaction
  | .branchSummary fromId summary details fromHook =>
    s.appendBranchSummary uuid fromId summary details fromHook
  | .label targetId label => (s.addLabel uuid targetId label).getD s
  | .sessionInfo name => s.appendSessionInfo uuid name
  | .custom customType data => s.appendCustomEntry uuid customType data

/-- A step of a session.  A UUID is not drawn twice. -/
def Session.step (s : Session) : SessionAction → Option Session
  | .append uuid payload => if uuid 100 ∈ s.entryIds then none else some (s.add uuid payload)
  | .navigateTo id => some ((s.navigateTo id).getD s)
  | .resetLeaf => some s.resetLeaf
  | .setModelHeader provider modelId thinkingLevel =>
    some (s.setModelHeader provider modelId thinkingLevel)
  | .setBranchedFrom path => some (s.setBranchedFrom path)
  | .ensureEntryIds uuid => some (s.ensureEntryIds uuid)

variable {s t : Session} {a : SessionAction} {codec : Codec}

/-- The queue has nothing to do with it. -/
theorem Session.Sound.setQueue (h : s.Sound) (queue : AutosaveQueue) :
    Session.Sound { s with autosaveQueue := queue } :=
  h.congr rfl rfl rfl rfl rfl h.leaf fun hlinear ↦ ⟨hlinear, (h.linear hlinear).2⟩

theorem Session.Sound.add (h : s.Sound) {uuid : ℕ → String} (hnew : uuid 100 ∉ s.entryIds)
    (payload : Payload) : (s.add uuid payload).Sound := by
  cases payload with
  | message m => exact h.appendMessage hnew m
  | sessionInfo name => exact h.appendSessionInfo hnew name
  | label targetId label =>
    rw [Session.add, Session.addLabel]
    cases s.getEntry targetId with
    | none => exact h
    | some e => exact h.append hnew rfl rfl
  | _ => exact h.append hnew rfl rfl

theorem Session.Sound.step (h : s.Sound) (ht : s.step a = some t) : t.Sound := by
  cases a with
  | append uuid payload =>
    rw [Session.step] at ht
    split at ht
    · cases ht
    · rename_i hnew
      cases ht
      exact h.add hnew payload
  | navigateTo id =>
    cases ht
    cases hid : s.navigateTo id with
    | none => exact h
    | some t => exact h.navigateTo hid
  | resetLeaf => cases ht; exact h.resetLeaf
  | setModelHeader provider modelId thinkingLevel => cases ht; exact h.setModelHeader ..
  | setBranchedFrom path => cases ht; exact h.setBranchedFrom path
  | ensureEntryIds uuid => cases ht; exact (h.ensureEntryIds uuid).1

/-! ## What waits to be saved -/

theorem AutosaveQueue.enqueueMutation_pos (q : AutosaveQueue) :
    0 < q.enqueueMutation.pendingMutations := by
  rw [enqueueMutation]
  split
  · exact Nat.one_pos
  · split
    · exact Nat.succ_pos _
    · exact Nat.pos_of_ne_zero ‹_›

theorem AutosaveQueue.enqueueMutation_max (q : AutosaveQueue) :
    q.enqueueMutation.maxPendingMutations = q.maxPendingMutations := by
  rw [enqueueMutation]
  split
  · rfl
  · split <;> rfl

theorem AutosaveQueue.beginFlush_eq_some {q q' : AutosaveQueue} {trigger : AutosaveFlushTrigger}
    {batchSize : ℕ} (h : q.beginFlush trigger = some (batchSize, q')) :
    0 < batchSize ∧ q'.maxPendingMutations = q.maxPendingMutations := by
  rw [beginFlush] at h
  split at h
  · cases h
  · cases h
    exact ⟨Nat.pos_of_ne_zero ‹_›, rfl⟩

theorem AutosaveQueue.finishFlush_max (q : AutosaveQueue) (batchSize : ℕ)
    (trigger : AutosaveFlushTrigger) (success : Bool) :
    (q.finishFlush batchSize trigger success).maxPendingMutations = q.maxPendingMutations := by
  cases success <;> rfl

/-- What could not be written is pending again. -/
theorem AutosaveQueue.finishFlush_pos {q : AutosaveQueue} (hmax : 0 < q.maxPendingMutations)
    {batchSize : ℕ} (hbatch : 0 < batchSize) (trigger : AutosaveFlushTrigger) :
    0 < (q.finishFlush batchSize trigger false).pendingMutations := by
  simp only [finishFlush, Bool.false_eq_true, if_false]
  omega

/-- What is not in the file is pending. -/
structure Session.Awaits (s : Session) : Prop where
  le : s.persistedEntryCount ≤ s.entries.length
  max : 0 < s.autosaveQueue.maxPendingMutations
  pending : s.autosaveQueue.pendingMutations = 0 →
    s.persistedEntryCount = s.entries.length ∧ s.headerDirty = false

/-- What is the same after a step, but for what is marked as changed. -/
structure Session.Carries (s t : Session) : Prop where
  entries : s.entries <+: t.entries
  persisted : t.persistedEntryCount = s.persistedEntryCount
  max : t.autosaveQueue.maxPendingMutations = s.autosaveQueue.maxPendingMutations
  header : t.headerDirty = false → s.headerDirty = false ∧ t.header = s.header
  pending : t.autosaveQueue.pendingMutations = 0 → s.autosaveQueue.pendingMutations = 0 ∧
    t.entries = s.entries ∧ t.headerDirty = s.headerDirty

theorem Session.Carries.refl (s : Session) : s.Carries s :=
  ⟨List.prefix_rfl, rfl, rfl, fun h ↦ ⟨h, rfl⟩, fun h ↦ ⟨h, rfl, rfl⟩⟩

theorem Session.carries_append (s : Session) (uuid : ℕ → String) (payload : Payload) :
    s.Carries (s.append uuid payload) :=
  ⟨List.prefix_append .., rfl, AutosaveQueue.enqueueMutation_max _, fun h ↦ ⟨h, rfl⟩,
    fun h ↦ absurd h (AutosaveQueue.enqueueMutation_pos _).ne'⟩

/-- What a step carries over. -/
theorem Session.Sound.carries (h : s.Sound) (ht : s.step a = some t) : s.Carries t := by
  cases a with
  | append uuid payload =>
    rw [Session.step] at ht
    split at ht
    · cases ht
    · cases ht
      have happend := s.carries_append uuid payload
      cases payload with
      | label targetId label =>
        rw [Session.add, Session.addLabel]
        cases s.getEntry targetId with
        | none => exact .refl s
        | some e => exact happend
      | _ => exact ⟨happend.entries, happend.persisted, happend.max, happend.header, happend.pending⟩
  | navigateTo id =>
    cases ht
    rw [Session.navigateTo]
    split <;> exact ⟨List.prefix_rfl, rfl, rfl, fun h ↦ ⟨h, rfl⟩, fun h ↦ ⟨h, rfl, rfl⟩⟩
  | resetLeaf =>
    cases ht
    exact ⟨List.prefix_rfl, rfl, rfl, fun h ↦ ⟨h, rfl⟩, fun h ↦ ⟨h, rfl, rfl⟩⟩
  | setModelHeader provider modelId thinkingLevel =>
    cases ht
    rw [Session.setModelHeader]
    cases hchanged : provider.isSome || modelId.isSome || thinkingLevel.isSome with
    | true =>
      exact ⟨List.prefix_rfl, rfl, AutosaveQueue.enqueueMutation_max _, by simp,
        fun h ↦ absurd h (AutosaveQueue.enqueueMutation_pos _).ne'⟩
    | false =>
      simp only [Bool.or_eq_false_iff, Option.isSome_eq_false_iff, Option.isNone_iff_eq_none]
        at hchanged
      obtain ⟨⟨rfl, rfl⟩, rfl⟩ := hchanged
      exact ⟨List.prefix_rfl, rfl, rfl, by simp, by simp⟩
  | setBranchedFrom path =>
    cases ht
    exact ⟨List.prefix_rfl, rfl, AutosaveQueue.enqueueMutation_max _, by simp [Session.setBranchedFrom],
      fun h ↦ absurd h (AutosaveQueue.enqueueMutation_pos _).ne'⟩
  | ensureEntryIds uuid =>
    cases ht
    have hentries := (h.ensureEntryIds uuid).2.1
    exact ⟨hentries ▸ List.prefix_rfl, rfl, rfl, fun h ↦ ⟨h, rfl⟩, fun h ↦ ⟨h, hentries, rfl⟩⟩

theorem Session.Awaits.carry (h : s.Awaits) (hst : s.Carries t) : t.Awaits where
  le := hst.persisted ▸ h.le.trans hst.entries.length_le
  max := hst.max ▸ h.max
  pending ht := by
    obtain ⟨hs, hentries, hdirty⟩ := hst.pending ht
    rw [hst.persisted, hentries, hdirty]
    exact h.pending hs

/-! ## What is in the file -/

/-- An entry is one line, and reading it gives it back. -/
structure Codec.Keeps (codec : Codec) (e : SessionEntry) : Prop where
  reads : codec.readEntry (codec.writeEntry e) = .ok e
  oneLine : Lines.lineFeed ∉ codec.writeEntry e
  notBlank : isBlank (codec.writeEntry e) = false

/-- A header is one line, and reading it gives it back. -/
structure Codec.KeepsHeader (codec : Codec) (header : SessionHeader) : Prop where
  reads : codec.readHeader (codec.writeHeader header) = .ok header
  oneLine : Lines.lineFeed ∉ codec.writeHeader header
  notBlank : isBlank (codec.writeHeader header) = false

/-- There is no file yet, or it has the header and the entries that were written, and the header is
the one of the session unless that was changed. -/
def Stored.Filed (codec : Codec) (w : Stored) : Prop :=
  w.file = none ∧ w.session.persistedEntryCount = 0 ∨
    ∃ header, w.file = some (codec.fileText header
        (w.session.entries.take w.session.persistedEntryCount)) ∧
      (w.session.headerDirty = false → header = w.session.header) ∧ codec.KeepsHeader header ∧
      ∀ e ∈ w.session.entries.take w.session.persistedEntryCount, codec.Keeps e

theorem Stored.Filed.carry {file : Option (List Char)} (h : Stored.Filed codec ⟨s, file⟩)
    (hle : s.persistedEntryCount ≤ s.entries.length) (hst : s.Carries t) :
    Stored.Filed codec ⟨t, file⟩ := by
  rcases h with ⟨hfile, hzero⟩ | ⟨header, hfile, hheader, hkeeps⟩
  · exact .inl ⟨hfile, hst.persisted.trans hzero⟩
  · have htake : t.entries.take t.persistedEntryCount = s.entries.take s.persistedEntryCount := by
      obtain ⟨l, hl⟩ := hst.entries
      rw [hst.persisted, ← hl, List.take_append_of_le_length hle]
    refine .inr ⟨header, htake ▸ hfile, fun ht ↦ ?_, hkeeps.1, htake ▸ hkeeps.2⟩
    obtain ⟨hs, heq⟩ := hst.header ht
    exact (hheader hs).trans heq.symm

/-- What a save leaves of a session beside its entries, and what of what is in the file. -/
structure Stored.Saved (codec : Codec) (torn : Bool) (w v : Stored) (outcome : SaveOutcome) :
    Prop where
  sound : v.session.Sound
  entries : v.session.entries = w.session.entries
  leaf : v.session.leafId = w.session.leafId
  header : v.session.header = w.session.header
  queue : v.session.autosaveQueue = w.session.autosaveQueue
  le : v.session.persistedEntryCount ≤ v.session.entries.length
  ok : outcome.isOk = true →
    v.session.persistedEntryCount = v.session.entries.length ∧ v.session.headerDirty = false
  failed : outcome.isOk = false → v.session.persistedEntryCount = w.session.persistedEntryCount ∧
    v.session.headerDirty = w.session.headerDirty
  filed : outcome = .rewritten ∨ torn = false ∧ outcome ≠ .torn → v.Filed codec

/-- **A save**, of a session that need not have told what is pending. -/
theorem Stored.saved_of_saveInner {w v : Stored} {torn : Bool} (h : w.session.Sound)
    (hle : w.session.persistedEntryCount ≤ w.session.entries.length)
    (hfiled : torn = false → w.Filed codec) (hheader : codec.KeepsHeader w.session.header)
    (hkeeps : ∀ e ∈ w.session.entries, codec.Keeps e) {interval : ℕ} {uuid : ℕ → ℕ → String}
    {fault : Option ℕ} {outcome : SaveOutcome}
    (hv : w.saveInner codec interval uuid fault = (v, outcome)) :
    Stored.Saved codec torn w v outcome := by
  obtain ⟨hsound, hentries, -⟩ := h.ensureEntryIds uuid
  have hcarries : w.session.Carries (w.session.ensureEntryIds uuid) :=
    h.carries (a := .ensureEntryIds uuid) rfl
  have hle' : (w.session.ensureEntryIds uuid).persistedEntryCount ≤
      (w.session.ensureEntryIds uuid).entries.length := hentries ▸ hle
  have hkept : ∀ e ∈ (w.session.ensureEntryIds uuid).entries, codec.Keeps e := hentries ▸ hkeeps
  have hsame (ht : torn = false) : Stored.Filed codec ⟨w.session.ensureEntryIds uuid, w.file⟩ :=
    (hfiled ht).carry hle hcarries
  have hunsaved {file : Option (List Char)} {o : SaveOutcome} (ho : o.isOk = false)
      (hf : torn = false ∧ o ≠ .torn → Stored.Filed codec ⟨w.session.ensureEntryIds uuid, file⟩) :
      Stored.Saved codec torn w ⟨w.session.ensureEntryIds uuid, file⟩ o :=
    ⟨hsound, hentries, rfl, rfl, rfl, hle', fun ht ↦ absurd (ho.symm.trans ht) (by simp),
      fun _ ↦ ⟨rfl, rfl⟩, fun ht ↦ hf (ht.resolve_left (by rintro rfl; cases ho))⟩
  have hsaved {n m : ℕ} {b : Bool} : ({ w.session.ensureEntryIds uuid with
      persistedEntryCount := n, headerDirty := b, appendsSinceCheckpoint := m } : Session).Sound :=
    hsound.congr rfl rfl rfl rfl rfl hsound.leaf fun hl ↦ ⟨hl, (hsound.linear hl).2⟩
  simp only [saveInner] at hv
  split at hv
  · split at hv
    · cases hv
      exact hunsaved rfl fun ht ↦ hsame ht.1
    · cases hv
      refine ⟨hsaved, hentries, rfl, rfl, rfl, le_rfl, fun _ ↦ ⟨rfl, rfl⟩,
        by simp [SaveOutcome.isOk], fun _ ↦ .inr ⟨_, ?_, fun _ ↦ rfl, hheader,
          fun e he ↦ hkept e (List.mem_of_mem_take he)⟩⟩
      simp [Session.rewritten]
  · rename_i hrewrite
    simp only [Session.shouldFullRewrite, Bool.or_eq_true, decide_eq_true_eq, not_or, not_le,
      not_lt, Bool.not_eq_true] at hrewrite
    obtain ⟨⟨⟨hzero, hdirty⟩, -⟩, hge⟩ := hrewrite
    split at hv
    · rename_i hlt
      split at hv
      · cases hv
        rename_i hfile
        exact hunsaved rfl fun ht ↦ hfile ▸ hsame ht.1
      · cases hv
        exact hunsaved rfl fun ht ↦ absurd rfl ht.2
      · rename_i content hfile
        cases hv
        refine ⟨hsaved, hentries, rfl, rfl, rfl, le_rfl, fun _ ↦ ⟨rfl, hdirty⟩,
          by simp [SaveOutcome.isOk], fun ht ↦ ?_⟩
        rcases hsame (ht.resolve_left (by simp)).1 with ⟨hnone, -⟩ | ⟨header, htext, hsince, hread, -⟩
        · exact absurd (hfile.symm.trans hnone) (by simp)
        · refine .inr ⟨header, ?_, hsince, hread, fun e he ↦ hkept e (List.mem_of_mem_take he)⟩
          obtain rfl : content = _ := Option.some.inj (hfile.symm.trans htext)
          simp only [Session.appended, List.take_length, Codec.fileText, Codec.entriesText,
            List.append_assoc]
          rw [← Lines.terminated_append, ← List.map_append, List.take_append_drop]
    · rename_i hlt
      cases hv
      exact ⟨hsound, hentries, rfl, rfl, rfl, hle',
        fun _ ↦ ⟨hle'.antisymm (not_lt.mp hlt), hdirty⟩, by simp [SaveOutcome.isOk], fun ht ↦ hsame (ht.resolve_left (by simp)).1⟩

/-! ## What is read -/

theorem Codec.concat_parseLines (parts : List (List (ℕ × List Char))) :
    Parsed.concat (parts.map codec.parseLines) = codec.parseLines parts.flatten := by
  simp only [Parsed.concat, Codec.parseLines, List.flatMap_def, List.map_map, List.filterMap_flatten]
  rfl

/-- Several threads read what one reads. -/
theorem Codec.parseBatch_eq (numThreads : ℕ) (batch : List (ℕ × List Char)) :
    codec.parseBatch numThreads batch = codec.parseLines batch := by
  rw [parseBatch]
  split
  · rw [concat_parseLines, Lists.flatten_chunks (by omega)]
  · rfl

/-- **Batches and threads do not matter**: all lines are read that are not blank. -/
theorem Codec.parseEntries_eq (numThreads : ℕ) (lines : List (ℕ × List Char)) :
    codec.parseEntries numThreads lines =
      codec.parseLines (lines.filter fun line ↦ !isBlank line.2) := by
  simp only [parseEntries, parseBatch_eq]
  have hsize : 0 < jsonlParseBatchSize := by decide
  conv_rhs => rw [← Lists.flatten_chunks hsize lines]
  rw [List.filter_flatten, ← concat_parseLines, List.map_map]
  rfl

theorem Codec.parseLines_cons {line : ℕ × List Char} {e : SessionEntry}
    (h : codec.readEntry line.2 = .ok e) (lines : List (ℕ × List Char)) :
    codec.parseLines (line :: lines) =
      (e :: (codec.parseLines lines).1, (codec.parseLines lines).2) := by
  simp [parseLines, h, Except.toOption]

theorem Codec.parseLines_numbered {entries : List SessionEntry} (h : ∀ e ∈ entries, codec.Keeps e)
    (n : ℕ) : codec.parseLines (((entries.map codec.writeEntry).zipIdx n).map fun line ↦
      (line.2 + 2, line.1)) = (entries, []) := by
  induction entries generalizing n with
  | nil => rfl
  | cons e entries ih =>
    obtain ⟨he, h⟩ := List.forall_mem_cons.mp h
    rw [List.map_cons, List.zipIdx_cons, List.map_cons, parseLines_cons he.reads, ih h (n + 1)]

theorem Codec.lines_fileText {header : SessionHeader} {entries : List SessionEntry}
    (hheader : codec.KeepsHeader header) (h : ∀ e ∈ entries, codec.Keeps e) :
    Lines.lines (codec.fileText header entries) =
      codec.writeHeader header :: entries.map codec.writeEntry := by
  rw [fileText, entriesText, ← Lines.terminated_append, ← List.append_nil (Lines.terminated _),
    Lines.lines_terminated_append _ List.not_mem_nil, if_pos rfl, List.append_nil]
  · rfl
  · rw [List.forall_mem_append]
    refine ⟨by simpa using hheader.oneLine, ?_⟩
    rw [List.forall_mem_map]
    exact fun e he ↦ (h e he).oneLine

/-- **A file that was written** is read as it was. -/
theorem openJsonl_fileText {header : SessionHeader} {entries : List SessionEntry}
    (hheader : codec.KeepsHeader header) (h : ∀ e ∈ entries, codec.Keeps e) (hnamed : Named entries)
    (hgrown : Grown SessionEntry.key SessionEntry.parentId entries) (maxPending numThreads : ℕ)
    (uuid : ℕ → ℕ → String) :
    openJsonl codec maxPending numThreads uuid (codec.fileText header entries) =
      .ok (Session.loaded header maxPending entries
        (LoadFinalization.empty.scan (entryIdSet entries) entries 0), ⟨[], []⟩) := by
  have hfinds : (LoadFinalization.empty.scan (entryIdSet entries) entries 0).Finds entries :=
    LoadFinalization.finds_scan hnamed hgrown fun k hk ↦ hnamed.entryIdSet_eq ▸ hk
  have hfilter : (((entries.map codec.writeEntry).zipIdx.map fun line ↦
      (line.2 + 2, line.1)).filter fun line ↦ !isBlank line.2) =
        (entries.map codec.writeEntry).zipIdx.map fun line ↦ (line.2 + 2, line.1) := by
    rw [List.filter_eq_self, List.forall_mem_map]
    rintro ⟨line, n⟩ hline
    obtain ⟨e, he, rfl⟩ := List.mem_map.mp (List.fst_mem_of_mem_zipIdx hline)
    simp [(h e he).notBlank]
  have hfinal : finalizeLoadedEntries uuid entries =
      (entries, LoadFinalization.empty.scan (entryIdSet entries) entries 0) := by
    rw [finalizeLoadedEntries, hnamed.assignEntryIds_eq]
    rfl
  rw [openJsonl, Codec.lines_fileText hheader h]
  simp only [hheader.notBlank, hheader.reads, Codec.parseEntries_eq, hfilter,
    Codec.parseLines_numbered h, hfinal, hfinds.orphans, Bool.false_eq_true, if_false]

/-- A session that was read from such a file. -/
theorem Session.sound_loaded {header : SessionHeader} {entries : List SessionEntry}
    (hnamed : Named entries) (hgrown : Grown SessionEntry.key SessionEntry.parentId entries)
    (maxPending : ℕ) :
    (Session.loaded header maxPending entries
      (LoadFinalization.empty.scan (entryIdSet entries) entries 0)).Sound := by
  have hids := hnamed.entryIdSet_eq
  have hfinds : (LoadFinalization.empty.scan (entryIdSet entries) entries 0).Finds entries :=
    LoadFinalization.finds_scan hnamed hgrown fun k hk ↦ hids ▸ hk
  refine ⟨hnamed, hgrown, hfinds.index, fun k ↦ by rw [Session.loaded, hids], ?_, fun h ↦ ?_,
    hfinds.count, hfinds.name⟩
  · intro k hk
    rw [Session.loaded, hfinds.leaf] at hk
    obtain ⟨e, he, rfl⟩ := Option.map_eq_some_iff.mp hk
    exact List.mem_map_of_mem (List.mem_of_getLast? he)
  · rw [Session.loaded, Bool.not_eq_true', hfinds.branching, ← hgrown.straight_iff] at h
    exact ⟨h, hfinds.leaf⟩

/-! ## Runs -/

/-- What may be done to a session and its file. -/
inductive StoredAction where
  | act (action : SessionAction)
  | save (uuid : ℕ → ℕ → String) (fault : Option ℕ)
  | flush (uuid : ℕ → ℕ → String) (fault : Option ℕ) (trigger : AutosaveFlushTrigger)
  | reopen (numThreads : ℕ) (uuid : ℕ → ℕ → String)

/-- A session and its file, and whether a write at the end of the file has failed since the whole
of it was written. -/
structure StoredRun where
  stored : Stored
  torn : Bool

/-- Whether a part of a write may be in the file after a save. -/
def SaveOutcome.tears (torn : Bool) : SaveOutcome → Bool
  | .rewritten => false
  | .torn => true
  | .appended | .unchanged | .failed => torn

/-- A step of a session that has a file.  A session is opened only if there is a file that can be
read. -/
def StoredRun.step (codec : Codec) (interval maxPending : ℕ) (w : StoredRun) :
    StoredAction → Option StoredRun
  | .act a => (w.stored.session.step a).map fun s ↦ ⟨⟨s, w.stored.file⟩, w.torn⟩
  | .save uuid fault =>
    let (v, outcome) := w.stored.save codec interval uuid fault
    some ⟨v, outcome.tears w.torn⟩
  | .flush uuid fault trigger =>
    let (v, outcome) := w.stored.flushAutosave codec interval uuid fault trigger
    some ⟨v, outcome.tears w.torn⟩
  | .reopen numThreads uuid =>
    w.stored.file.bind fun content ↦
      (openJsonl codec maxPending numThreads uuid content).toOption.map fun (s, _) ↦
        ⟨⟨s, w.stored.file⟩, w.torn⟩

/-- What the steps rest on: what is written can be read, and no file is read that may have a part of
a write in it. -/
def StoredRun.Allows (codec : Codec) (w : StoredRun) : StoredAction → Prop
  | .act _ => True
  | .save _ _ | .flush _ _ _ => codec.KeepsHeader w.stored.session.header ∧
      ∀ e ∈ w.stored.session.entries, codec.Keeps e
  | .reopen _ _ => w.torn = false

/-- **What every run keeps.** -/
structure StoredRun.Kept (codec : Codec) (w : StoredRun) : Prop where
  sound : w.stored.session.Sound
  awaits : w.stored.session.Awaits
  filed : w.torn = false → w.stored.Filed codec

theorem StoredRun.kept_create (header : SessionHeader) {maxPending : ℕ} (h : 0 < maxPending) :
    StoredRun.Kept codec ⟨⟨Session.create header maxPending, none⟩, false⟩ :=
  ⟨Session.sound_create header maxPending, ⟨le_rfl, h, fun _ ↦ ⟨rfl, rfl⟩⟩,
    fun _ ↦ .inl ⟨rfl, rfl⟩⟩

/-- A save that tears nothing leaves the file in order. -/
theorem Stored.Saved.filed_of_tears {torn : Bool} {w v : Stored} {outcome : SaveOutcome}
    (h : Stored.Saved codec torn w v outcome) (ht : outcome.tears torn = false) :
    v.Filed codec := by
  refine h.filed ?_
  cases outcome with
  | rewritten => exact .inl rfl
  | torn => cases ht
  | _ => exact .inr ⟨ht, by simp⟩

theorem StoredRun.Kept.saveInner {w : StoredRun} (h : w.Kept codec)
    (hheader : codec.KeepsHeader w.stored.session.header)
    (hkeeps : ∀ e ∈ w.stored.session.entries, codec.Keeps e) (interval : ℕ) (uuid : ℕ → ℕ → String)
    (fault : Option ℕ) {v : Stored} {outcome : SaveOutcome}
    (hv : w.stored.saveInner codec interval uuid fault = (v, outcome)) :
    StoredRun.Kept codec ⟨v, outcome.tears w.torn⟩ ∧
      v.session.entries = w.stored.session.entries := by
  have hsaved := Stored.saved_of_saveInner h.sound h.awaits.le h.filed hheader hkeeps hv
  refine ⟨⟨hsaved.sound, ⟨hsaved.le, hsaved.queue ▸ h.awaits.max, fun hpending ↦ ?_⟩,
    hsaved.filed_of_tears⟩, hsaved.entries⟩
  cases hok : outcome.isOk with
  | true => exact hsaved.ok hok
  | false =>
    obtain ⟨hcount, hdirty⟩ := hsaved.failed hok
    rw [hcount, hdirty, hsaved.entries]
    exact h.awaits.pending (hsaved.queue ▸ hpending)

theorem StoredRun.Kept.flush {w : StoredRun} (h : w.Kept codec)
    (hheader : codec.KeepsHeader w.stored.session.header)
    (hkeeps : ∀ e ∈ w.stored.session.entries, codec.Keeps e) (interval : ℕ) (uuid : ℕ → ℕ → String)
    (fault : Option ℕ) (trigger : AutosaveFlushTrigger) {v : Stored} {outcome : SaveOutcome}
    (hv : w.stored.flushAutosave codec interval uuid fault trigger = (v, outcome)) :
    StoredRun.Kept codec ⟨v, outcome.tears w.torn⟩ ∧
      v.session.entries = w.stored.session.entries := by
  rw [Stored.flushAutosave] at hv
  split at hv
  · cases hv
    exact ⟨h, rfl⟩
  · rename_i batchSize queue hbegin
    obtain ⟨hbatch, hqueue⟩ := AutosaveQueue.beginFlush_eq_some hbegin
    generalize hs : Stored.saveInner codec interval uuid fault _ = r at hv
    obtain ⟨r, o⟩ := r
    cases hv
    have hsaved := Stored.saved_of_saveInner
      (w := ⟨{ w.stored.session with autosaveQueue := queue }, w.stored.file⟩)
      (h.sound.setQueue queue) h.awaits.le h.filed hheader hkeeps hs
    have hmax : 0 < r.session.autosaveQueue.maxPendingMutations := by
      rw [hsaved.queue, hqueue]
      exact h.awaits.max
    refine ⟨⟨hsaved.sound.setQueue _, ⟨hsaved.le, ?_, fun hnone ↦ ?_⟩, hsaved.filed_of_tears⟩,
      hsaved.entries⟩
    · rw [Session.finishFlush, AutosaveQueue.finishFlush_max]
      exact hmax
    · cases hok : outcome.isOk with
      | true => exact hsaved.ok hok
      | false =>
        simp only [Session.finishFlush, hok] at hnone
        exact absurd hnone (AutosaveQueue.finishFlush_pos hmax hbatch trigger).ne'

theorem StoredRun.Kept.save {w : StoredRun} (h : w.Kept codec)
    (hheader : codec.KeepsHeader w.stored.session.header)
    (hkeeps : ∀ e ∈ w.stored.session.entries, codec.Keeps e) (interval : ℕ) (uuid : ℕ → ℕ → String)
    (fault : Option ℕ) {v : Stored} {outcome : SaveOutcome}
    (hv : w.stored.save codec interval uuid fault = (v, outcome)) :
    StoredRun.Kept codec ⟨v, outcome.tears w.torn⟩ ∧
      v.session.entries = w.stored.session.entries := by
  rw [Stored.save] at hv
  split at hv
  · exact h.saveInner hheader hkeeps interval uuid fault hv
  · exact h.flush hheader hkeeps interval uuid fault .manual hv

/-- **What is read** are the entries that were written, with a header that was written. -/
theorem StoredRun.Kept.openJsonl_eq {w : StoredRun} (h : w.Kept codec) (ht : w.torn = false)
    {content : List Char} (hfile : w.stored.file = some content) (maxPending numThreads : ℕ)
    (uuid : ℕ → ℕ → String) : ∃ header entries t,
      openJsonl codec maxPending numThreads uuid content = .ok (t, ⟨[], []⟩) ∧
      entries = w.stored.session.entries.take w.stored.session.persistedEntryCount ∧
      (w.stored.session.headerDirty = false → header = w.stored.session.header) ∧
      t = Session.loaded header maxPending entries
        (LoadFinalization.empty.scan (entryIdSet entries) entries 0) ∧
      t.Sound ∧ t.leafId = entries.getLast?.map SessionEntry.key ∧
      Stored.Filed codec ⟨t, w.stored.file⟩ := by
  rcases h.filed ht with ⟨hnone, -⟩ | ⟨header, htext, hsince, hread, hkeeps⟩
  · exact absurd (hfile.symm.trans hnone) (by simp)
  · obtain rfl : content = _ := Option.some.inj (hfile.symm.trans htext)
    have hgrown := h.sound.grown
    rw [← List.take_append_drop w.stored.session.persistedEntryCount w.stored.session.entries]
      at hgrown
    have hnamed : Named (w.stored.session.entries.take w.stored.session.persistedEntryCount) :=
      fun e he ↦ h.sound.named e (List.mem_of_mem_take he)
    have hfinds := LoadFinalization.finds_scan hnamed hgrown.of_append
      fun k hk ↦ hnamed.entryIdSet_eq ▸ hk
    refine ⟨header, _, _, openJsonl_fileText hread hkeeps hnamed hgrown.of_append .., rfl, hsince,
      rfl, Session.sound_loaded hnamed hgrown.of_append maxPending, hfinds.leaf,
      .inr ⟨header, ?_, fun _ ↦ rfl, hread, ?_⟩⟩
    · simpa only [Session.loaded, List.take_length] using htext
    · simpa only [Session.loaded, List.take_length] using hkeeps

/-- **All is in the file** if nothing is pending and no part of a write may be in it, and what is
read from it is the same session, but for the leaf, which is the last entry then. -/
theorem StoredRun.Kept.reopened {w : StoredRun} (h : w.Kept codec) (htorn : w.torn = false)
    (hpending : w.stored.session.autosaveQueue.pendingMutations = 0) (maxPending : ℕ) :
    w.stored.file = none ∧ w.stored.session.entries = [] ∨
    w.stored.file = some (codec.fileText w.stored.session.header w.stored.session.entries) ∧
    ∀ numThreads uuid, ∃ t,
      openJsonl codec maxPending numThreads uuid
        (codec.fileText w.stored.session.header w.stored.session.entries) = .ok (t, ⟨[], []⟩) ∧
      t.header = w.stored.session.header ∧ t.entries = w.stored.session.entries ∧
      t.entryIndex = w.stored.session.entryIndex ∧
      t.cachedMessageCount = w.stored.session.cachedMessageCount ∧
      t.cachedName = w.stored.session.cachedName ∧
      (w.stored.session.leafId = w.stored.session.entries.getLast?.map SessionEntry.key →
        t.toMessagesForCurrentPath = w.stored.session.toMessagesForCurrentPath) := by
  obtain ⟨hcount, hdirty⟩ := h.awaits.pending hpending
  rcases h.filed htorn with ⟨hfile, hzero⟩ | ⟨header', hfile, hsince, -⟩
  · exact .inl ⟨hfile, List.length_eq_zero_iff.mp (hcount.symm.trans hzero)⟩
  · rw [hcount, List.take_length, hsince hdirty] at hfile
    refine .inr ⟨hfile, fun numThreads uuid ↦ ?_⟩
    obtain ⟨header', entries, t, hopen, hentries, hsince, ht, hsound, hleaf, -⟩ :=
      h.openJsonl_eq htorn hfile maxPending numThreads uuid
    rw [hcount, List.take_length] at hentries
    obtain rfl := hsince hdirty
    subst hentries
    have hteq : t.entries = w.stored.session.entries := by rw [ht]; rfl
    refine ⟨t, hopen, by rw [ht]; rfl, hteq, funext fun k ↦ ?_, ?_, ?_, fun hlast ↦ ?_⟩
    · rw [hsound.index, h.sound.index, hteq]
    · rw [hsound.count, h.sound.count, hteq]
    · rw [hsound.name, h.sound.name, hteq]
    · rw [hsound.toMessagesForCurrentPath_eq, h.sound.toMessagesForCurrentPath_eq, hteq, hleaf,
        hlast]

/-- The same, for the step. -/
theorem StoredRun.Kept.reopen {interval maxPending : ℕ} (hmax : 0 < maxPending) {w v : StoredRun}
    (h : w.Kept codec) (ht : w.torn = false) {numThreads : ℕ} {uuid : ℕ → ℕ → String}
    (hv : w.step codec interval maxPending (.reopen numThreads uuid) = some v) : v.Kept codec ∧
      v.stored.session.entries =
        w.stored.session.entries.take w.stored.session.persistedEntryCount := by
  obtain ⟨content, hfile, hv⟩ := Option.bind_eq_some_iff.mp hv
  obtain ⟨header, entries, t, hopen, rfl, -, rfl, hsound, -, hfiled⟩ :=
    h.openJsonl_eq ht hfile maxPending numThreads uuid
  rw [hopen] at hv
  cases hv
  exact ⟨⟨hsound, ⟨le_rfl, hmax, fun _ ↦ ⟨rfl, rfl⟩⟩, fun _ ↦ hfiled⟩, rfl⟩

theorem StoredRun.Kept.step {interval maxPending : ℕ} (hmax : 0 < maxPending) {w v : StoredRun}
    {a : StoredAction} (h : w.Kept codec) (ha : w.Allows codec a)
    (hv : w.step codec interval maxPending a = some v) : v.Kept codec := by
  cases a with
  | act a =>
    obtain ⟨s, hs, rfl⟩ := Option.map_eq_some_iff.mp hv
    have hcarries := h.sound.carries hs
    exact ⟨h.sound.step hs, h.awaits.carry hcarries,
      fun ht ↦ (h.filed ht).carry h.awaits.le hcarries⟩
  | save uuid fault =>
    cases hv
    exact (h.save ha.1 ha.2 interval uuid fault rfl).1
  | flush uuid fault trigger =>
    cases hv
    exact (h.flush ha.1 ha.2 interval uuid fault trigger rfl).1
  | reopen numThreads uuid => exact (h.reopen hmax ha hv).1

/-- **The run lemma.** -/
theorem StoredRun.kept_of_exec {interval maxPending : ℕ} (hmax : 0 < maxPending) {w v : StoredRun}
    {as : List StoredAction} (h : w.Kept codec)
    (hallows : Guarded (StoredRun.step codec interval maxPending) (StoredRun.Allows codec) w as)
    (hv : exec (StoredRun.step codec interval maxPending) w as = some v) : v.Kept codec :=
  inv_of_guarded (fun _ _ _ hw ha hv ↦ hw.step hmax ha hv) h hallows hv

/-! ## What is as it was before -/

/-- No session is closed that has changes which are not saved. -/
def StoredRun.Settled (w : StoredRun) : StoredAction → Prop
  | .reopen _ _ => w.stored.session.autosaveQueue.pendingMutations = 0
  | .act _ | .save _ _ | .flush _ _ _ => True

theorem StoredRun.Kept.entries_step {interval maxPending : ℕ} (hmax : 0 < maxPending)
    {w v : StoredRun} {a : StoredAction} (h : w.Kept codec) (ha : w.Allows codec a)
    (hsettled : w.Settled a) (hv : w.step codec interval maxPending a = some v) :
    w.stored.session.entries <+: v.stored.session.entries := by
  cases a with
  | act a =>
    obtain ⟨s, hs, rfl⟩ := Option.map_eq_some_iff.mp hv
    exact (h.sound.carries hs).entries
  | save uuid fault =>
    cases hv
    rw [(h.save ha.1 ha.2 interval uuid fault rfl).2]
  | flush uuid fault trigger =>
    cases hv
    rw [(h.flush ha.1 ha.2 interval uuid fault trigger rfl).2]
  | reopen numThreads uuid =>
    rw [(h.reopen hmax ha hv).2, (h.awaits.pending hsettled).1, List.take_length]

/-- **Entries are only added.** -/
theorem StoredRun.entries_of_exec {interval maxPending : ℕ} (hmax : 0 < maxPending)
    {w v : StoredRun} {as : List StoredAction} (h : w.Kept codec)
    (hallows : Guarded (StoredRun.step codec interval maxPending)
      (fun w a ↦ w.Allows codec a ∧ w.Settled a) w as)
    (hv : exec (StoredRun.step codec interval maxPending) w as = some v) :
    w.stored.session.entries <+: v.stored.session.entries := by
  refine (inv_of_guarded (I := fun v : StoredRun ↦ v.Kept codec ∧
    w.stored.session.entries <+: v.stored.session.entries) ?_ ⟨h, List.prefix_rfl⟩ hallows hv).2
  rintro u a t ⟨hu, hwu⟩ ⟨ha, hsettled⟩ ht
  exact ⟨hu.step hmax ha ht, hwu.trans (hu.entries_step hmax ha hsettled ht)⟩

end WorkWithMe.Pi
