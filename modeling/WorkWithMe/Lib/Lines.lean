import Mathlib.Data.List.Basic

/-!
# Lines

A text of lines, as a reader takes it apart: at each line feed, and what comes after the last one
counts as a line unless it is empty.

* `terminated` is the text of some records, each with a line feed behind it.
* `lines_terminated_append` says what the lines are of such a text with something behind it that has
  no line feed: the records, and that.
* `strLines` are the lines as the standard library of Rust has them, where a carriage return before
  the line feed is part of the end of the line; `strLines_terminated` is for records that have none.
-/

set_option autoImplicit false

namespace Lines

/-- The line feed. -/
def lineFeed : Char := '\n'

/-- The lines of a text. -/
def lines (cs : List Char) : List (List Char) :=
  if (cs.splitOn lineFeed).getLast? = some [] then (cs.splitOn lineFeed).dropLast
  else cs.splitOn lineFeed

/-- Records, each with a line feed behind it. -/
def terminated (records : List (List Char)) : List Char :=
  records.flatMap fun record ↦ record ++ [lineFeed]

@[simp] theorem terminated_nil : terminated [] = [] := rfl

theorem terminated_cons (record : List Char) (records : List (List Char)) :
    terminated (record :: records) = record ++ lineFeed :: terminated records := by
  rw [terminated, List.flatMap_cons, List.append_assoc]
  rfl

theorem terminated_append (records records' : List (List Char)) :
    terminated (records ++ records') = terminated records ++ terminated records' :=
  List.flatMap_append

theorem terminated_singleton (record : List Char) : terminated [record] = record ++ [lineFeed] := by
  rw [terminated, List.flatMap_singleton]

/-- A text without line feeds is one line, or none. -/
theorem lines_of_notMem {rest : List Char} (hrest : lineFeed ∉ rest) :
    lines rest = if rest = [] then [] else [rest] := by
  rw [lines, List.splitOn_eq_singleton hrest]
  by_cases h : rest = []
  · rw [if_pos h, h]
    rfl
  · rw [if_neg h, if_neg]
    exact fun hlast ↦ h (Option.some.inj hlast)

/-- The first line ends at the first line feed. -/
theorem lines_append_lineFeed {record : List Char} (hrecord : lineFeed ∉ record)
    (cs : List Char) : lines (record ++ lineFeed :: cs) = record :: lines cs := by
  obtain ⟨part, parts, hparts⟩ :=
    List.exists_cons_of_ne_nil (List.splitOn_ne_nil lineFeed cs)
  rw [lines, lines, List.splitOn_append_cons_self, List.splitOn_eq_singleton hrecord, hparts,
    List.singleton_append, List.getLast?_cons_cons, List.dropLast_cons_cons]
  split <;> rfl

/-- **The lines of records**, and of what has no line feed behind it yet. -/
theorem lines_terminated_append {records : List (List Char)} {rest : List Char}
    (hrecords : ∀ record ∈ records, lineFeed ∉ record) (hrest : lineFeed ∉ rest) :
    lines (terminated records ++ rest) = records ++ if rest = [] then [] else [rest] := by
  induction records with
  | nil => exact lines_of_notMem hrest
  | cons record records ih =>
    obtain ⟨hrecord, hrecords⟩ := List.forall_mem_cons.mp hrecords
    rw [terminated_cons, List.append_assoc, List.cons_append, lines_append_lineFeed hrecord,
      ih hrecords, List.cons_append]

/-! ## Lines that may end in a carriage return -/

/-- A line without the carriage return at its end. -/
def dropReturn (line : List Char) : List Char :=
  if line.getLast? = some '\r' then line.dropLast else line

/-- `str::lines`.  What comes after the last line feed is taken as it is. -/
def strLines (cs : List Char) : List (List Char) :=
  (cs.splitOn lineFeed).dropLast.map dropReturn ++
    (cs.splitOn lineFeed).getLast?.toList.filter (· ≠ [])

theorem strLines_append_lineFeed {record : List Char} (hrecord : lineFeed ∉ record)
    (cs : List Char) :
    strLines (record ++ lineFeed :: cs) = dropReturn record :: strLines cs := by
  obtain ⟨part, parts, hparts⟩ :=
    List.exists_cons_of_ne_nil (List.splitOn_ne_nil lineFeed cs)
  rw [strLines, strLines, List.splitOn_append_cons_self, List.splitOn_eq_singleton hrecord, hparts,
    List.singleton_append, List.getLast?_cons_cons, List.dropLast_cons_cons, List.map_cons,
    List.cons_append]

/-- The lines of records that do not end in a carriage return. -/
theorem strLines_terminated {records : List (List Char)}
    (hrecords : ∀ record ∈ records, lineFeed ∉ record)
    (hreturn : ∀ record ∈ records, record.getLast? ≠ some '\r') :
    strLines (terminated records) = records := by
  induction records with
  | nil => rfl
  | cons record records ih =>
    obtain ⟨hrecord, hrecords⟩ := List.forall_mem_cons.mp hrecords
    obtain ⟨hlast, hreturn⟩ := List.forall_mem_cons.mp hreturn
    rw [terminated_cons, strLines_append_lineFeed hrecord, dropReturn, if_neg hlast,
      ih hrecords hreturn]

end Lines
