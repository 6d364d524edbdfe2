import WorkWithMe.Lib.Json

/-!
# Files that hold JSON documents

A program that keeps a document in a file writes it whole and reads it whole.  `Contents` is what
such a file can hold, and `Faults` says which of the three file operations behind a call fail, and
with what message: making the directory, reading, and writing or renaming.  An operation that fails
leaves the file as it was.

`readFile` is the usual reader, with the two texts that a program puts in front of the messages, and
`writeFile` the usual writer; `readFile_eq_ok_iff` and `writeFile_cases` say what they can do.
-/

set_option autoImplicit false

namespace JsonFile

/-- What a file holds. -/
inductive Contents where
  /-- A JSON document. -/
  | doc (v : Json)
  /-- Something that is not JSON, with what the parser says of it. -/
  | garbled (message : String)

/-- The file operations of one call that fail, with their messages. -/
structure Faults where
  /-- `create_dir_all`. -/
  dir : Option String
  /-- `read_to_string`. -/
  read : Option String
  /-- `write` or `rename`. -/
  write : Option String

/-- All goes well. -/
def Faults.none : Faults := ⟨.none, .none, .none⟩

/-- Read the document in a file. -/
def readFile (f : Faults) (unreadable invalid : String) (c : Contents) : Except String Json :=
  match f.read, c with
  | some e, _ => .error (unreadable ++ e)
  | none, .garbled e => .error (invalid ++ e)
  | none, .doc v => .ok v

/-- Make the directory of a file, and write a document into the file. -/
def writeFile (f : Faults) (noDir unwritable : String) (v : Json) (file : Option Contents) :
    Except String Unit × Option Contents :=
  match f.dir, f.write with
  | some e, _ => (.error (noDir ++ e), file)
  | none, some e => (.error (unwritable ++ e), file)
  | none, none => (.ok (), some (.doc v))

theorem readFile_eq_ok_iff {f : Faults} {unreadable invalid : String} {c : Contents} {v : Json} :
    readFile f unreadable invalid c = .ok v ↔ f.read = none ∧ c = .doc v := by
  unfold readFile
  cases f.read with
  | some e => simp
  | none => cases c <;> simp

/-- The same for a reader that answers `none` where there is no file. -/
theorem readFile_map_some_eq_ok_iff {f : Faults} {unreadable invalid : String} {c : Contents}
    {v : Json} : (readFile f unreadable invalid c).map some = .ok (some v) ↔
      f.read = none ∧ c = .doc v := by
  rw [← readFile_eq_ok_iff]
  cases readFile f unreadable invalid c <;> simp [Except.map]

/-- **What the writer can do**: write, or nothing. -/
theorem writeFile_cases (f : Faults) (noDir unwritable : String) (v : Json)
    (file : Option Contents) :
    (f.dir = none ∧ f.write = none ∧
        writeFile f noDir unwritable v file = (.ok (), some (.doc v))) ∨
      (¬ (f.dir = none ∧ f.write = none) ∧
        ∃ e, writeFile f noDir unwritable v file = (.error e, file)) := by
  unfold writeFile
  cases f.dir with
  | some e => exact Or.inr ⟨by simp, _, rfl⟩
  | none =>
    cases f.write with
    | some e => exact Or.inr ⟨by simp, _, rfl⟩
    | none => exact Or.inl ⟨rfl, rfl, rfl⟩

end JsonFile
