import WorkWithMe.Lib.Lines
import WorkWithMe.Lib.Lists
import WorkWithMe.Lib.Rust
import WorkWithMe.Pi.Session

/-!
# Files of sessions

A session is kept in a file, with the header in the first line and an entry in each of the others.
`Stored.saveInner` writes either the whole file anew, which replaces the old one at once or not at
all, or only the entries that were added since.  A write at the end of the file that fails may leave
a part of what was to be written.

How headers and entries are written is a parameter.  The other kind of store, and what becomes of a
save that is given up half-way, are left out.
-/

set_option autoImplicit false

namespace WorkWithMe.Pi

/-- How headers and entries are written and read. -/
structure Codec where
  writeHeader : SessionHeader → List Char
  readHeader : List Char → Except String SessionHeader
  writeEntry : SessionEntry → List Char
  readEntry : List Char → Except String SessionEntry

variable (codec : Codec)

/-- The lines of entries. -/
def Codec.entriesText (entries : List SessionEntry) : List Char :=
  Lines.terminated (entries.map codec.writeEntry)

/-- The text of a file. -/
def Codec.fileText (header : SessionHeader) (entries : List SessionEntry) : List Char :=
  Lines.terminated [codec.writeHeader header] ++ codec.entriesText entries

/-! ## Writing -/

/-- A session and its file. -/
structure Stored where
  session : Session
  file : Option (List Char)

/-- `should_full_rewrite`. -/
def Session.shouldFullRewrite (s : Session) (checkpointInterval : ℕ) : Bool :=
  s.persistedEntryCount = 0 || s.headerDirty || decide (checkpointInterval ≤ s.appendsSinceCheckpoint) ||
    decide (s.entries.length < s.persistedEntryCount)

/-- The whole file is written. -/
def Session.rewritten (s : Session) : Session :=
  { s with
    persistedEntryCount := s.entries.length
    headerDirty := false
    appendsSinceCheckpoint := 0 }

/-- The entries were written that were added. -/
def Session.appended (s : Session) : Session :=
  { s with
    persistedEntryCount := s.entries.length
    appendsSinceCheckpoint := s.appendsSinceCheckpoint + 1 }

/-- What came of a save. -/
inductive SaveOutcome where
  | rewritten
  | appended
  | unchanged
  | failed
  | torn
  deriving DecidableEq

/-- The save has succeeded. -/
def SaveOutcome.isOk : SaveOutcome → Bool
  | .rewritten | .appended | .unchanged => true
  | .failed | .torn => false

/-- `save_inner`, and what came of it.  A write may fail, and then so much of a text that is written
at the end of the file is there. -/
def Stored.saveInner (checkpointInterval : ℕ) (uuid : ℕ → ℕ → String) (fault : Option ℕ)
    (w : Stored) : Stored × SaveOutcome :=
  let s := w.session.ensureEntryIds uuid
  if s.shouldFullRewrite checkpointInterval then
    match fault with
    | some _ => (⟨s, w.file⟩, .failed)
    | none => (⟨s.rewritten, some (codec.fileText s.header s.entries)⟩, .rewritten)
  else if s.persistedEntryCount < s.entries.length then
    let text := codec.entriesText (s.entries.drop s.persistedEntryCount)
    match w.file, fault with
    | none, _ => (⟨s, none⟩, .failed)
    | some content, some written => (⟨s, some (content ++ text.take written)⟩, .torn)
    | some content, none => (⟨s.appended, some (content ++ text)⟩, .appended)
  else (⟨s, w.file⟩, .unchanged)

/-- The flush is over. -/
def Session.finishFlush (s : Session) (batchSize : ℕ) (trigger : AutosaveFlushTrigger)
    (success : Bool) : Session :=
  { s with autosaveQueue := s.autosaveQueue.finishFlush batchSize trigger success }

/-- `flush_autosave`: nothing is written if nothing is pending. -/
def Stored.flushAutosave (checkpointInterval : ℕ) (uuid : ℕ → ℕ → String) (fault : Option ℕ)
    (trigger : AutosaveFlushTrigger) (w : Stored) : Stored × SaveOutcome :=
  match w.session.autosaveQueue.beginFlush trigger with
  | none => (w, .unchanged)
  | some (batchSize, queue) =>
    let (v, outcome) := Stored.saveInner codec checkpointInterval uuid fault
      ⟨{ w.session with autosaveQueue := queue }, w.file⟩
    (⟨v.session.finishFlush batchSize trigger outcome.isOk, v.file⟩, outcome)

/-- `save`. -/
def Stored.save (checkpointInterval : ℕ) (uuid : ℕ → ℕ → String) (fault : Option ℕ) (w : Stored) :
    Stored × SaveOutcome :=
  if w.session.autosaveQueue.pendingMutations = 0 then
    w.saveInner codec checkpointInterval uuid fault
  else w.flushAutosave codec checkpointInterval uuid fault .manual

/-! ## Reading -/

/-- `PARALLEL_THRESHOLD`. -/
def parallelThreshold : ℕ := 512

/-- `JSONL_PARSE_BATCH_SIZE`. -/
def jsonlParseBatchSize : ℕ := 8192

/-- Entries, and the numbers of the lines that are none, with what is wrong with them. -/
abbrev Parsed : Type := List SessionEntry × List (ℕ × String)

/-- The lines are read one after the other. -/
def Codec.parseLines (lines : List (ℕ × List Char)) : Parsed :=
  (lines.filterMap fun line ↦ (codec.readEntry line.2).toOption,
    lines.filterMap fun line ↦
      match codec.readEntry line.2 with
      | .ok _ => none
      | .error e => some (line.1, e))

/-- One after the other. -/
def Parsed.concat (parts : List Parsed) : Parsed :=
  (parts.flatMap Prod.fst, parts.flatMap Prod.snd)

/-- A batch of lines is read, by several threads if it is a long one. -/
def Codec.parseBatch (numThreads : ℕ) (batch : List (ℕ × List Char)) : Parsed :=
  if parallelThreshold ≤ batch.length ∧ 1 < numThreads then
    Parsed.concat ((Lists.chunks (max (batch.length / numThreads) 64) batch).map codec.parseLines)
  else codec.parseLines batch

/-- A line with nothing but white space. -/
def isBlank (line : List Char) : Bool := line.all Rust.isWhitespace

/-- The loop over the lines behind the header, each with its number. -/
def Codec.parseEntries (numThreads : ℕ) (lines : List (ℕ × List Char)) : Parsed :=
  Parsed.concat ((Lists.chunks jsonlParseBatchSize lines).map fun batch ↦
    codec.parseBatch numThreads (batch.filter fun line ↦ !isBlank line.2))

/-- `SessionOpenDiagnostics`. -/
structure SessionOpenDiagnostics where
  skippedEntries : List (ℕ × String)
  orphanedParentLinks : List (String × String)

/-- A session that was read. -/
def Session.loaded (header : SessionHeader) (maxPendingMutations : ℕ) (entries : List SessionEntry)
    (f : LoadFinalization) : Session where
  header := header
  entries := entries
  leafId := f.leafId
  entryIds := entryIdSet entries
  isLinear := !f.hasBranching
  entryIndex := f.entryIndex
  cachedMessageCount := f.messageCount
  cachedName := f.name
  autosaveQueue := .new maxPendingMutations
  persistedEntryCount := entries.length
  headerDirty := false
  appendsSinceCheckpoint := 0

/-- `open_jsonl_blocking`, of a file with this content. -/
def openJsonl (maxPendingMutations numThreads : ℕ) (uuid : ℕ → ℕ → String) (content : List Char) :
    Except String (Session × SessionOpenDiagnostics) :=
  match Lines.lines content with
  | [] => .error "Empty session file"
  | headerLine :: lines =>
    if isBlank headerLine then .error "Empty session file"
    else
      match codec.readHeader headerLine with
      | .error e => .error ("Invalid header: " ++ e)
      | .ok header =>
        let (parsed, skipped) := codec.parseEntries numThreads
          (lines.zipIdx.map fun line ↦ (line.2 + 2, line.1))
        let (entries, f) := finalizeLoadedEntries uuid parsed
        .ok (Session.loaded header maxPendingMutations entries f, ⟨skipped, f.orphans⟩)

end WorkWithMe.Pi
