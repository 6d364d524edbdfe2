import Mathlib.Data.List.Nodup
import Mathlib.Logic.Function.Basic
import WorkWithMe.Lib.JsonText
import WorkWithMe.Lib.Lines
import WorkWithMe.Lib.Machine

/-!
# The server: the audit log and the notification log

`log_event_with_severity` and `log_notification` append a JSON document and a line feed to a log,
with `writeln!` on a file that is opened for appending and has no buffer.  That is two calls of
`write`: each of them appends at once, and between the two other calls may append what they have.
Nothing keeps two requests from logging at the same time.

A `Logs` is the two files with any number of calls, and `step` takes one call from one operation of
the file system to the next.

* `Structured` says that every line of a log is the text of one event, and every event that has been
  written has one line.
* `structured_iff_guarded` says in which runs that is so all along: those in which a call writes its
  event only while no other one has still to write its line feed to the same log.
-/

set_option autoImplicit false

namespace WorkWithMe.Server.Logs

open Lines

/-! ## The events -/

/-- The two files. -/
inductive Log where
  /-- `~/.pi/audit.log`. -/
  | audit
  /-- `~/.pi/notifications.log`. -/
  | notifications
  deriving DecidableEq

/-- `AuditSeverity`. -/
inductive AuditSeverity where
  | info
  | warning
  | critical

def AuditSeverity.asStr : AuditSeverity → String
  | .info => "info"
  | .warning => "warning"
  | .critical => "critical"

/-- A JSON value: its numbers are written as numbers. -/
abbrev Value := { v : Json // v.Numerals }

/-- `Notification`. -/
structure Notification where
  id : String
  title : String
  body : String
  /-- `"info"`, `"warning"`, `"error"` or `"success"`. -/
  level : String
  timestamp : String

/-- A call, with the time at which it was made. -/
inductive Request where
  /-- `log_event_with_severity`. -/
  | event (eventType : String) (severity : AuditSeverity) (details : Option Value)
    (timestamp : String)
  /-- `log_notification`. -/
  | notification (n : Notification)

/-- Where a call writes to. -/
def Request.log : Request → Log
  | .event .. => .audit
  | .notification _ => .notifications

/-- The document that a call writes, with its members in the order in which they are written. -/
def Request.document : Request → Json
  | .event eventType severity details timestamp =>
    .obj [("details", details.elim .null Subtype.val), ("severity", .str severity.asStr),
      ("timestamp", .str timestamp), ("type", .str eventType)]
  | .notification n =>
    .obj [("body", .str n.body), ("id", .str n.id), ("level", .str n.level),
      ("timestamp", .str n.timestamp), ("title", .str n.title)]

/-- The text of an event. -/
def Request.text (r : Request) : List Char := r.document.compact

/-- What a call returns when `create_dir_all` fails. -/
def Request.dirError (r : Request) (e : String) : String :=
  match r.log with
  | .audit => "Failed to create audit directory: " ++ e
  | .notifications => "Failed to create notifications directory: " ++ e

/-- What a call returns when the file cannot be opened. -/
def Request.openError (r : Request) (e : String) : String :=
  match r.log with
  | .audit => "Failed to open audit log: " ++ e
  | .notifications => "Failed to open notifications log: " ++ e

/-- What a call returns when it cannot write. -/
def Request.writeError (r : Request) (e : String) : String :=
  match r.log with
  | .audit => "Failed to write to audit log: " ++ e
  | .notifications => "Failed to write notification: " ++ e

/-- A text of an event is a text without line feeds. -/
theorem Request.lineFeed_notMem_text (r : Request) : lineFeed ∉ r.text := by
  refine Json.lineFeed_notMem_compact _ ?_
  cases r with
  | event eventType severity details timestamp =>
    have hdetails : (details.elim .null Subtype.val : Json).Numerals := by
      cases details with
      | none => trivial
      | some v => exact v.2
    exact ⟨hdetails, trivial, trivial, trivial, trivial⟩
  | notification n => exact ⟨trivial, trivial, trivial, trivial, trivial, trivial⟩

/-- A text of an event is not empty. -/
theorem Request.text_ne_nil (r : Request) : r.text ≠ [] := by
  cases r <;> exact List.cons_ne_nil _ _

/-! ## The calls -/

/-- Where a call is. -/
inductive Place where
  /-- It has to make sure that the directory is there. -/
  | directory
  /-- It has to open the file. -/
  | file
  /-- It has to write its event. -/
  | opened
  /-- It has to write its line feed. -/
  | recorded
  | finished (result : Except String Unit)

/-- What can happen next. -/
inductive Action where
  /-- The call with the number is made. -/
  | arrive (c : ℕ)
  /-- A call takes its next step, or the step fails. -/
  | go (c : ℕ) (failure : Option String)

/-- The step does not fail. -/
def Action.Succeeds : Action → Prop
  | .go _ (some _) => False
  | _ => True

/-- **The files and the calls.** -/
structure Files where
  /-- What is in a file, if it is there. -/
  content : Log → List Char
  /-- Where each call is. -/
  place : ℕ → Option Place

namespace Files

/-- The files with the events of former calls. -/
def start (before : Log → List Request) : Files :=
  ⟨fun log ↦ terminated ((before log).map Request.text), fun _ ↦ none⟩

/-- The call is at the place. -/
def goto (s : Files) (c : ℕ) (p : Place) : Files :=
  { s with place := Function.update s.place c (some p) }

/-- A call of `write`. -/
def append (s : Files) (log : Log) (cs : List Char) : Files :=
  { s with content := Function.update s.content log (s.content log ++ cs) }

@[simp] theorem content_goto (s : Files) (c : ℕ) (p : Place) : (s.goto c p).content = s.content :=
  rfl

@[simp] theorem place_goto_self (s : Files) (c : ℕ) (p : Place) :
    (s.goto c p).place c = some p := by
  simp [goto]

theorem place_goto_of_ne {c d : ℕ} (hd : d ≠ c) (s : Files) (p : Place) :
    (s.goto c p).place d = s.place d := by
  simp [goto, hd]

@[simp] theorem place_append (s : Files) (log : Log) (cs : List Char) :
    (s.append log cs).place = s.place := rfl

@[simp] theorem content_append_self (s : Files) (log : Log) (cs : List Char) :
    (s.append log cs).content log = s.content log ++ cs := by
  simp [append]

theorem content_append_of_ne {log log' : Log} (hlog : log' ≠ log) (s : Files) (cs : List Char) :
    (s.append log cs).content log' = s.content log' := by
  simp [append, hlog]

/-- A call takes a step. -/
def go (r : Request) (s : Files) (c : ℕ) : Place → Option String → Option Files
  | .directory, none => some (s.goto c .file)
  | .directory, some e => some (s.goto c (.finished (.error (r.dirError e))))
  | .file, none => some (s.goto c .opened)
  | .file, some e => some (s.goto c (.finished (.error (r.openError e))))
  | .opened, none => some ((s.append r.log r.text).goto c .recorded)
  | .recorded, none => some ((s.append r.log [lineFeed]).goto c (.finished (.ok ())))
  | .opened, some e | .recorded, some e => some (s.goto c (.finished (.error (r.writeError e))))
  | .finished _, _ => none

variable (request : ℕ → Request)

/-- **One step of the calls**: the call with the number `c` is `request c`. -/
def step (s : Files) : Action → Option Files
  | .arrive c => if (s.place c).isNone then some (s.goto c .directory) else none
  | .go c failure => (s.place c).bind fun p ↦ go (request c) s c p failure

/-- The event of the call is in the log. -/
def Recorded (s : Files) (log : Log) (c : ℕ) : Prop :=
  (request c).log = log ∧ (s.place c = some .recorded ∨ s.place c = some (.finished (.ok ())))

/-- Its line feed is not. -/
def Pending (s : Files) (log : Log) (c : ℕ) : Prop :=
  (request c).log = log ∧ s.place c = some .recorded

variable (before : Log → List Request)

/-- The texts of the events of former calls, and of calls. -/
def texts (log : Log) (cs : List ℕ) : List (List Char) :=
  (before log).map Request.text ++ cs.map fun c ↦ (request c).text

/-- **The logs are made of lines**: each line is the text of one event, and each event that has been
written has one line. -/
def Structured (s : Files) : Prop :=
  ∀ log, ∃ cs : List ℕ, cs.Nodup ∧ (∀ c, c ∈ cs ↔ s.Recorded request log c) ∧
    lines (s.content log) = texts request before log cs

/-- The call writes its event while no other one has still to write its line feed. -/
def Alone (s : Files) : Action → Prop
  | .go c none => s.place c = some .opened → ∀ d, ¬ s.Pending request (request c).log d
  | _ => True

/-- A log ends with a line feed, or with the event of the one call that has still to write its line
feed. -/
def OrderedAt (s : Files) (log : Log) : Prop :=
  ∃ cs : List ℕ, cs.Nodup ∧ (∀ c, c ∈ cs ↔ s.Recorded request log c) ∧
    ((s.content log = terminated (texts request before log cs) ∧
        ∀ d, ¬ s.Pending request log d) ∨
      ∃ front p, cs = front ++ [p] ∧ (∀ d, s.Pending request log d ↔ d = p) ∧
        s.content log = terminated (texts request before log front) ++ (request p).text)

/-- **The invariant of the runs of such steps.** -/
def Ordered (s : Files) : Prop := ∀ log, s.OrderedAt request before log

/-! ## What a step does -/

/-- A step of a call, as far as its log is concerned. -/
inductive Stepped (r : Request) (s : Files) (c : ℕ) : Action → Files → Prop where
  /-- It does not get to write. -/
  | quiet (a : Action) (p : Place) (hp : p ≠ .recorded ∧ p ≠ .finished (.ok ()))
      (hc : s.place c ≠ some .recorded ∧ s.place c ≠ some (.finished (.ok ())))
      (ha : ∀ d, a = .go d none → s.place d ≠ some .opened) : Stepped r s c a (s.goto c p)
  /-- It writes its event. -/
  | record (hc : s.place c = some .opened) :
      Stepped r s c (.go c none) ((s.append r.log r.text).goto c .recorded)
  /-- It writes its line feed. -/
  | finish (hc : s.place c = some .recorded) :
      Stepped r s c (.go c none) ((s.append r.log [lineFeed]).goto c (.finished (.ok ())))
  /-- It cannot write its line feed. -/
  | failed (e : String) (hc : s.place c = some .recorded) :
      Stepped r s c (.go c (some e)) (s.goto c (.finished (.error (r.writeError e))))

variable {request before} {s s' : Files} {c : ℕ} {log : Log}

theorem step_cases {a : Action} (h : step request s a = some s') :
    ∃ c, Stepped (request c) s c a s' := by
  cases a with
  | arrive c =>
    rw [step] at h
    split_ifs at h with hc
    obtain rfl := Option.some.inj h
    rw [Option.isNone_iff_eq_none] at hc
    exact ⟨c, .quiet _ _ (by simp) (by simp [hc]) (by simp)⟩
  | go c failure =>
    obtain ⟨p, hp, hgo⟩ := Option.bind_eq_some_iff.mp h
    refine ⟨c, ?_⟩
    cases p with
    | directory =>
      cases failure <;> obtain rfl := Option.some.inj hgo <;>
        exact .quiet _ _ (by simp) (by simp [hp]) (by simp [hp])
    | file =>
      cases failure <;> obtain rfl := Option.some.inj hgo <;>
        exact .quiet _ _ (by simp) (by simp [hp]) (by simp [hp])
    | opened =>
      cases failure with
      | none =>
        obtain rfl := Option.some.inj hgo
        exact .record hp
      | some e =>
        obtain rfl := Option.some.inj hgo
        exact .quiet _ _ (by simp) (by simp [hp]) (by simp)
    | recorded =>
      cases failure with
      | none =>
        obtain rfl := Option.some.inj hgo
        exact .finish hp
      | some e =>
        obtain rfl := Option.some.inj hgo
        exact .failed e hp
    | finished result => cases hgo

/-! ## The lines of an ordered log -/

theorem texts_concat (log : Log) (front : List ℕ) (p : ℕ) :
    texts request before log (front ++ [p]) =
      texts request before log front ++ [(request p).text] := by
  rw [texts, texts, List.map_append, List.map_singleton, List.append_assoc]

theorem length_texts (log : Log) (cs : List ℕ) :
    (texts request before log cs).length = (before log).length + cs.length := by
  rw [texts, List.length_append, List.length_map, List.length_map]

/-- No text of an event has a line feed in it. -/
theorem lineFeed_notMem_texts {cs : List ℕ} :
    ∀ record ∈ texts request before log cs, lineFeed ∉ record := by
  intro record hmem
  obtain hmem | hmem := List.mem_append.mp hmem
  · obtain ⟨r, -, rfl⟩ := List.mem_map.mp hmem
    exact r.lineFeed_notMem_text
  · obtain ⟨c, -, rfl⟩ := List.mem_map.mp hmem
    exact (request c).lineFeed_notMem_text

/-- **An ordered log is made of lines.** -/
theorem Ordered.structured (hs : s.Ordered request before) : s.Structured request before := by
  intro log
  obtain ⟨cs, hnodup, hmem, ⟨hcontent, -⟩ | ⟨front, p, rfl, -, hcontent⟩⟩ := hs log
  · refine ⟨cs, hnodup, hmem, ?_⟩
    have htexts : ∀ record ∈ texts request before log cs, lineFeed ∉ record := lineFeed_notMem_texts
    have hlines := lines_terminated_append htexts List.not_mem_nil
    rwa [List.append_nil, if_pos rfl, List.append_nil, ← hcontent] at hlines
  · refine ⟨front ++ [p], hnodup, hmem, ?_⟩
    rw [hcontent, lines_terminated_append lineFeed_notMem_texts (request p).lineFeed_notMem_text,
      if_neg (request p).text_ne_nil, texts_concat]

theorem ordered_start : (start before).Ordered request before := by
  intro log
  refine ⟨[], List.nodup_nil, fun c ↦ iff_of_false List.not_mem_nil ?_, .inl ⟨?_, ?_⟩⟩
  · rintro ⟨-, h | h⟩ <;> cases h
  · rw [texts, List.map_nil, List.append_nil]
    rfl
  · rintro d ⟨-, h⟩
    cases h

/-! ## What a step keeps -/

/-- A log that a step leaves alone. -/
theorem OrderedAt.congr (hs : s.OrderedAt request before log)
    (hcontent : s'.content log = s.content log)
    (hrecorded : ∀ d, s'.Recorded request log d ↔ s.Recorded request log d)
    (hpending : ∀ d, s'.Pending request log d ↔ s.Pending request log d) :
    s'.OrderedAt request before log := by
  obtain ⟨cs, hnodup, hmem, hends⟩ := hs
  refine ⟨cs, hnodup, fun c ↦ (hmem c).trans (hrecorded c).symm, ?_⟩
  rw [hcontent]
  simpa only [hpending] using hends

theorem recorded_goto_of_ne {p : Place} {d : ℕ} (hd : d ≠ c) :
    (s.goto c p).Recorded request log d ↔ s.Recorded request log d := by
  rw [Recorded, Recorded, place_goto_of_ne hd]

theorem pending_goto_of_ne {p : Place} {d : ℕ} (hd : d ≠ c) :
    (s.goto c p).Pending request log d ↔ s.Pending request log d := by
  rw [Pending, Pending, place_goto_of_ne hd]

/-- A call that does not get to write. -/
theorem recorded_goto_quiet {p : Place} (hp : p ≠ .recorded ∧ p ≠ .finished (.ok ()))
    (hc : s.place c ≠ some .recorded ∧ s.place c ≠ some (.finished (.ok ()))) (d : ℕ) :
    ((s.goto c p).Recorded request log d ↔ s.Recorded request log d) ∧
      ((s.goto c p).Pending request log d ↔ s.Pending request log d) := by
  obtain rfl | hd := eq_or_ne d c
  · simp [Recorded, Pending, hp, hc]
  · exact ⟨recorded_goto_of_ne hd, pending_goto_of_ne hd⟩

/-- A call that writes, in the log that it does not write to. -/
theorem recorded_goto_other {p : Place} (hlog : (request c).log ≠ log) (d : ℕ) :
    ((s.goto c p).Recorded request log d ↔ s.Recorded request log d) ∧
      ((s.goto c p).Pending request log d ↔ s.Pending request log d) := by
  obtain rfl | hd := eq_or_ne d c
  · simp [Recorded, Pending, hlog]
  · exact ⟨recorded_goto_of_ne hd, pending_goto_of_ne hd⟩

/-- A call writes its event behind a line feed. -/
theorem Ordered.record (hs : s.Ordered request before) (hc : s.place c = some .opened)
    (halone : ∀ d, ¬ s.Pending request (request c).log d) :
    ((s.append (request c).log (request c).text).goto c .recorded).Ordered request before := by
  intro log
  obtain rfl | hlog := eq_or_ne (request c).log log
  · obtain ⟨cs, hnodup, hmem, ⟨hcontent, -⟩ | ⟨front, p, -, hpending, -⟩⟩ := hs (request c).log
    · have hnew : c ∉ cs := by
        rw [hmem, Recorded, hc]
        simp
      refine ⟨cs ++ [c], ?_, fun d ↦ ?_, .inr ⟨cs, c, rfl, fun d ↦ ?_, ?_⟩⟩
      · rw [← List.concat_eq_append]
        exact hnodup.concat hnew
      · obtain rfl | hd := eq_or_ne d c
        · simp [Recorded]
        · rw [recorded_goto_of_ne hd, List.mem_append, List.mem_singleton, hmem]
          simp [hd, Recorded]
      · obtain rfl | hd := eq_or_ne d c
        · simp [Pending]
        · rw [pending_goto_of_ne hd]
          exact iff_of_false (halone d) hd
      · rw [content_goto, content_append_self, hcontent]
    · exact absurd ((hpending p).mpr rfl) (halone p)
  · refine (hs log).congr ?_ (fun d ↦ (recorded_goto_other hlog d).1)
      fun d ↦ (recorded_goto_other hlog d).2
    rw [content_goto, content_append_of_ne hlog.symm]

/-- A call writes its line feed. -/
theorem Ordered.finish (hs : s.Ordered request before) (hc : s.place c = some .recorded) :
    ((s.append (request c).log [lineFeed]).goto c (.finished (.ok ()))).Ordered request before := by
  intro log
  obtain rfl | hlog := eq_or_ne (request c).log log
  · obtain ⟨cs, hnodup, hmem, ⟨-, hnone⟩ | ⟨front, p, rfl, hpending, hcontent⟩⟩ :=
      hs (request c).log
    · exact absurd ⟨rfl, hc⟩ (hnone c)
    · obtain rfl : c = p := (hpending c).mp ⟨rfl, hc⟩
      refine ⟨front ++ [c], hnodup, fun d ↦ ?_, .inl ⟨?_, fun d ↦ ?_⟩⟩
      · obtain rfl | hd := eq_or_ne d c
        · simp [Recorded]
        · rw [recorded_goto_of_ne hd, hmem]
          rfl
      · rw [content_goto, content_append_self, hcontent, texts_concat, terminated_append,
          terminated_singleton, List.append_assoc]
      · obtain rfl | hd := eq_or_ne d c
        · simp [Pending]
        · rw [pending_goto_of_ne hd]
          exact fun h ↦ hd ((hpending d).mp h)
  · refine (hs log).congr ?_ (fun d ↦ (recorded_goto_other hlog d).1)
      fun d ↦ (recorded_goto_other hlog d).2
    rw [content_goto, content_append_of_ne hlog.symm]

/-! ## Runs -/

/-- **A step that is allowed** and does not fail keeps the logs in order. -/
theorem Ordered.step {a : Action} (hs : s.Ordered request before) (ha : a.Succeeds)
    (hG : s.Alone request a) (h : Files.step request s a = some s') :
    s'.Ordered request before := by
  obtain ⟨c, hstepped⟩ := step_cases h
  cases hstepped with
  | quiet a p hp hc ha =>
    exact fun log ↦ (hs log).congr rfl (fun d ↦ (recorded_goto_quiet hp hc d).1)
      fun d ↦ (recorded_goto_quiet hp hc d).2
  | record hc => exact hs.record hc (hG hc)
  | finish hc => exact hs.finish hc
  | failed e hc => cases ha

/-- **A step that is not allowed** joins two events on one line. -/
theorem Ordered.alone_of_structured {a : Action} (hs : s.Ordered request before)
    (h : Files.step request s a = some s') (hs' : s'.Structured request before) :
    s.Alone request a := by
  obtain ⟨c, hstepped⟩ := step_cases h
  cases hstepped with
  | quiet a p hp hc ha =>
    cases a with
    | arrive d => trivial
    | go d failure =>
      cases failure with
      | none => exact fun hd ↦ absurd hd (ha d rfl)
      | some e => trivial
  | record hc =>
    intro _ d hd
    obtain ⟨cs, hnodup, hmem, ⟨-, hnone⟩ | ⟨front, p, rfl, -, hcontent⟩⟩ := hs (request c).log
    · exact hnone d hd
    · -- there is one line less than there are events
      obtain ⟨cs', hnodup', hmem', hlines⟩ := hs' (request c).log
      have hperm : cs'.Perm (c :: (front ++ [p])) := by
        have hnew : c ∉ front ++ [p] := by
          rw [hmem, Recorded, hc]
          simp
        refine (List.perm_ext_iff_of_nodup hnodup' (List.nodup_cons.mpr ⟨hnew, hnodup⟩)).mpr
          fun e ↦ ?_
        obtain rfl | he := eq_or_ne e c
        · rw [hmem']
          simp [Recorded]
        · rw [hmem', recorded_goto_of_ne he, List.mem_cons, hmem]
          simp [he, Recorded]
      have hrest : lineFeed ∉ (request p).text ++ (request c).text := by
        simp [(request p).lineFeed_notMem_text, (request c).lineFeed_notMem_text]
      have hne : (request p).text ++ (request c).text ≠ [] :=
        List.append_ne_nil_of_left_ne_nil (request p).text_ne_nil _
      rw [content_goto, content_append_self, hcontent, List.append_assoc,
        lines_terminated_append lineFeed_notMem_texts hrest, if_neg hne] at hlines
      have hlength := congrArg List.length hlines
      simp only [List.length_append, length_texts, hperm.length_eq, List.length_cons,
        List.length_nil] at hlength
      omega
  | finish hc =>
    intro hopened
    rw [hc] at hopened
    cases hopened
  | failed e hc => trivial

end Files

/-- **When the logs are made of lines**, in a run of calls none of which fails: if and only if every
call writes its event while no other one has still to write its line feed to the same log. -/
theorem structured_iff_guarded (request : ℕ → Request) (before : Log → List Request)
    (as : List Action) (hok : ∀ a ∈ as, a.Succeeds) (s : Files)
    (hrun : Machine.exec (Files.step request) (.start before) as = some s) :
    (∀ pre post t, as = pre ++ post →
      Machine.exec (Files.step request) (.start before) pre = some t →
        t.Structured request before) ↔
      Machine.Guarded (Files.step request) (Files.Alone request) (.start before) as :=
  Machine.forall_iff_guarded_of_inv (fun _ _ _ hs ha hG h ↦ hs.step ha hG h)
    (fun _ hs ↦ hs.structured) (fun _ _ _ hs h hs' ↦ hs.alone_of_structured h hs')
    Files.ordered_start hok hrun

/-- Two events of the audit log. -/
def exampleRequest (c : ℕ) : Request :=
  .event (if c = 0 then "auth:login" else "auth:logout") .info none "2026-01-01T00:00:00+00:00"

/-- One call after the other. -/
def exampleRun : List Action :=
  [.arrive 0, .arrive 1, .go 0 none, .go 1 none, .go 0 none, .go 1 none, .go 0 none, .go 0 none,
    .go 1 none, .go 1 none]

theorem structured_iff_guarded_example :
    ∃ s, Machine.exec (Files.step exampleRequest) (.start fun _ ↦ []) exampleRun = some s ∧
      ((∀ pre post t, exampleRun = pre ++ post →
        Machine.exec (Files.step exampleRequest) (.start fun _ ↦ []) pre = some t →
          t.Structured exampleRequest fun _ ↦ []) ↔
        Machine.Guarded (Files.step exampleRequest) (Files.Alone exampleRequest)
          (.start fun _ ↦ []) exampleRun) := by
  refine ⟨_, rfl, structured_iff_guarded exampleRequest (fun _ ↦ []) exampleRun ?_ _ rfl⟩
  simp [exampleRun, Action.Succeeds]

/-- **Two events on one line**, and an empty line behind it: both calls write their events before
either of them writes its line feed. -/
theorem not_structured :
    ¬ ∀ (request : ℕ → Request) (before : Log → List Request) (as : List Action),
      (∀ a ∈ as, a.Succeeds) → ∀ s,
        Machine.exec (Files.step request) (.start before) as = some s →
          s.Structured request before := by
  intro hall
  obtain ⟨as, s, hok, hrun, hcontent⟩ : ∃ as s, (∀ a ∈ as, Action.Succeeds a) ∧
      Machine.exec (Files.step exampleRequest) (.start fun _ ↦ []) as = some s ∧
        s.content .audit = [] ++ (exampleRequest 0).text ++ (exampleRequest 1).text ++ [lineFeed] ++
          [lineFeed] :=
    ⟨[.arrive 0, .arrive 1, .go 0 none, .go 1 none, .go 0 none, .go 1 none, .go 0 none,
      .go 1 none, .go 0 none, .go 1 none], _, by simp [Action.Succeeds], rfl, rfl⟩
  obtain ⟨cs, -, -, hlines⟩ := hall exampleRequest (fun _ ↦ []) as hok s hrun .audit
  have hjoined : s.content .audit =
      terminated [(exampleRequest 0).text ++ (exampleRequest 1).text, []] ++ [] := by
    rw [hcontent]
    simp [terminated]
  have hrecords : ∀ record ∈ [(exampleRequest 0).text ++ (exampleRequest 1).text, []],
      lineFeed ∉ record := by
    simp [(exampleRequest 0).lineFeed_notMem_text, (exampleRequest 1).lineFeed_notMem_text]
  rw [hjoined, lines_terminated_append hrecords List.not_mem_nil, if_pos rfl, List.append_nil]
    at hlines
  -- an empty line is the text of no event
  have hempty : [] ∈ cs.map fun c ↦ (exampleRequest c).text := by
    have hmem : [] ∈ Files.texts exampleRequest (fun _ ↦ []) .audit cs := by
      rw [← hlines]
      simp
    simpa [Files.texts] using hmem
  obtain ⟨c, -, hc⟩ := List.mem_map.mp hempty
  exact (exampleRequest c).text_ne_nil hc

end WorkWithMe.Server.Logs
