import WorkWithMe.Lib.Posix
import Mathlib.Data.List.Infix

/-!
# The file API

`server/files.rs`: the three functions behind the file API, which list a directory, search below
one, and describe a file.  Each is given a path, puts it below the home directory, has the system
follow all its links, and goes on only if what comes out begins with the home directory, which is
freed of its links in the same way.

A path may get there in four ways, and only one of them rejects two dots, so nothing is to be had
from what the path looks like.  What counts is what comes out: a location without links
(`expandPath_eq_ok`), and below such a location the walk of `search_files` meets names of
directories and no links (`confined_walkDir`, by induction on the depth).

* `globMatch` is the table of the pattern search, and `globMatch_iff` what it computes.
* `Disk` is a file system together with what the system says of its directories and files.
* `Disk.outcome` is what a call opens or describes and what it returns.
* **`confined`** says that what a call opens or describes is the home directory or below it, and
  that an entry it returns lies in such a directory, or is the home directory itself:
  `search_files` returns the directory it begins with too, and `get_file_info` may be asked for the
  home directory.
-/

set_option autoImplicit false

namespace WorkWithMe.Server.FileApi

open Posix

universe u

/-! ## The pattern -/

/-- The first row of the table: the pattern against no name at all. -/
def firstRow : Bool → List Char → List Bool
  | left, [] => [left]
  | left, p :: ps => left :: firstRow (p == '*' && left) ps

/-- The row of one more character of the name, made from the row above it. -/
def nextRow (ch : Char) : Bool → List Char → List Bool → List Bool
  | left, p :: ps, diagonal :: above :: row =>
    left :: nextRow ch
      (if p = '*' then left || above else if p = '?' ∨ p = ch then diagonal else false)
      ps (above :: row)
  | left, _, _ => [left]

/-- `glob_match`. -/
def globMatch (name pattern : String) : Bool :=
  let table := name.toList.foldl (fun row ch ↦ nextRow ch false pattern.toList row)
    (firstRow true pattern.toList)
  table.getLastD false

/-- **What a pattern means.** -/
inductive Matches : List Char → List Char → Prop
  /-- Nothing is left of either. -/
  | nil : Matches [] []
  /-- A star stands for nothing. -/
  | skip {ps ns : List Char} : Matches ps ns → Matches ('*' :: ps) ns
  /-- A star stands for one more character. -/
  | star {ps ns : List Char} {ch : Char} : Matches ('*' :: ps) ns → Matches ('*' :: ps) (ch :: ns)
  /-- A question mark stands for any character, and the others stand for themselves. -/
  | one {ps ns : List Char} {p ch : Char} : p ≠ '*' → p = '?' ∨ p = ch → Matches ps ns →
      Matches (p :: ps) (ch :: ns)

/-- A star at the end stands for nothing. -/
theorem Matches.skip_last {ps ns : List Char} (h : Matches ps ns) : Matches (ps ++ ['*']) ns := by
  induction h with
  | nil => exact .skip .nil
  | skip _ ih => exact .skip ih
  | star _ ih => exact .star ih
  | one hp hch _ ih => exact .one hp hch ih

/-- A star at the end stands for one more character. -/
theorem Matches.star_last {ps ns : List Char} {ch : Char} (h : Matches (ps ++ ['*']) ns) :
    Matches (ps ++ ['*']) (ns ++ [ch]) := by
  generalize hqs : ps ++ ['*'] = qs at h
  induction h generalizing ps with
  | nil => exact absurd hqs (List.append_ne_nil_of_right_ne_nil _ (List.cons_ne_nil _ _))
  | skip h ih =>
    obtain ⟨rfl, hqs⟩ | ⟨ps, rfl, rfl⟩ := List.append_eq_cons_iff.mp hqs
    · obtain rfl := (List.cons.inj hqs).2
      cases h
      exact .star (.skip .nil)
    · exact .skip (ih rfl)
  | star _ ih => exact .star (ih hqs)
  | one hp hch h ih =>
    obtain ⟨rfl, hqs⟩ | ⟨ps, rfl, rfl⟩ := List.append_eq_cons_iff.mp hqs
    · exact absurd (List.cons.inj hqs).1.symm hp
    · exact .one hp hch (ih rfl)

/-- A character at the end that is not a star. -/
theorem Matches.one_last {ps ns : List Char} {p ch : Char} (hp : p ≠ '*') (hch : p = '?' ∨ p = ch)
    (h : Matches ps ns) : Matches (ps ++ [p]) (ns ++ [ch]) := by
  induction h with
  | nil => exact .one hp hch .nil
  | skip _ ih => exact .skip ih
  | star _ ih => exact .star ih
  | one hq hq' _ ih => exact .one hq hq' ih

/-- What the last character of a pattern stands for. -/
theorem Matches.last {ps ms : List Char} {p : Char} (h : Matches (ps ++ [p]) ms) :
    (p = '*' ∧ (Matches ps ms ∨ ∃ ns ch, ms = ns ++ [ch] ∧ Matches (ps ++ ['*']) ns)) ∨
      (p ≠ '*' ∧ ∃ ns ch, ms = ns ++ [ch] ∧ (p = '?' ∨ p = ch) ∧ Matches ps ns) := by
  generalize hqs : ps ++ [p] = qs at h
  induction h generalizing ps with
  | nil => exact absurd hqs (List.append_ne_nil_of_right_ne_nil _ (List.cons_ne_nil _ _))
  | skip h ih =>
    obtain ⟨rfl, hqs⟩ | ⟨ps, rfl, rfl⟩ := List.append_eq_cons_iff.mp hqs
    · obtain ⟨hp, rfl⟩ := List.cons.inj hqs
      exact .inl ⟨hp, .inl h⟩
    · obtain ⟨hp, h' | ⟨ns, ch, hms, h'⟩⟩ | ⟨hp, ns, ch, hms, hch, h'⟩ := ih rfl
      · exact .inl ⟨hp, .inl (.skip h')⟩
      · exact .inl ⟨hp, .inr ⟨ns, ch, hms, .skip h'⟩⟩
      · exact .inr ⟨hp, ns, ch, hms, hch, .skip h'⟩
  | @star qs ms c h ih =>
    obtain ⟨rfl, hqs'⟩ | ⟨ps, rfl, rfl⟩ := List.append_eq_cons_iff.mp hqs
    · -- the star is all there is of the pattern
      obtain ⟨hp, rfl⟩ := List.cons.inj hqs'
      obtain ⟨-, h' | ⟨ns, ch, rfl, h'⟩⟩ | ⟨hp', -⟩ := ih hqs
      · cases h'
        exact .inl ⟨hp, .inr ⟨[], c, rfl, .skip .nil⟩⟩
      · exact .inl ⟨hp, .inr ⟨c :: ns, ch, rfl, .star h'⟩⟩
      · exact absurd hp hp'
    · obtain ⟨hp, h' | ⟨ns, ch, rfl, h'⟩⟩ | ⟨hp, ns, ch, rfl, hch, h'⟩ := ih hqs
      · exact .inl ⟨hp, .inl (.star h')⟩
      · exact .inl ⟨hp, .inr ⟨c :: ns, ch, rfl, .star h'⟩⟩
      · exact .inr ⟨hp, c :: ns, ch, rfl, hch, .star h'⟩
  | @one qs ms q c hq hc h ih =>
    obtain ⟨rfl, hqs⟩ | ⟨ps, rfl, rfl⟩ := List.append_eq_cons_iff.mp hqs
    · obtain ⟨rfl, rfl⟩ := List.cons.inj hqs
      cases h
      exact .inr ⟨hq, [], c, rfl, hc, .nil⟩
    · obtain ⟨hp, h' | ⟨ns, ch, rfl, h'⟩⟩ | ⟨hp, ns, ch, rfl, hch, h'⟩ := ih rfl
      · exact .inl ⟨hp, .inl (.one hq hc h')⟩
      · exact .inl ⟨hp, .inr ⟨c :: ns, ch, rfl, .one hq hc h'⟩⟩
      · exact .inr ⟨hp, c :: ns, ch, rfl, hch, .one hq hc h'⟩

/-- The last character of a pattern against no name. -/
theorem matches_concat_nil {ps : List Char} {p : Char} :
    Matches (ps ++ [p]) [] ↔ p = '*' ∧ Matches ps [] := by
  constructor
  · intro h
    obtain ⟨hp, h | ⟨ns, ch, hns, -⟩⟩ | ⟨-, ns, ch, hns, -⟩ := h.last
    · exact ⟨hp, h⟩
    · exact absurd hns.symm (List.append_ne_nil_of_right_ne_nil _ (List.cons_ne_nil _ _))
    · exact absurd hns.symm (List.append_ne_nil_of_right_ne_nil _ (List.cons_ne_nil _ _))
  · rintro ⟨rfl, h⟩
    exact h.skip_last

/-- The last character of a pattern against the last one of a name: what a cell of the table is
made of. -/
theorem matches_concat_concat {ps ns : List Char} {p ch : Char} :
    Matches (ps ++ [p]) (ns ++ [ch]) ↔
      if p = '*' then Matches ps (ns ++ [ch]) ∨ Matches (ps ++ [p]) ns
      else (p = '?' ∨ p = ch) ∧ Matches ps ns := by
  constructor
  · intro h
    obtain ⟨hp, h | ⟨ns', ch', hns, h⟩⟩ | ⟨hp, ns', ch', hns, hch, h⟩ := h.last
    · rw [if_pos hp]
      exact .inl h
    · obtain ⟨rfl, -⟩ := List.append_inj' hns rfl
      rw [if_pos hp, hp]
      exact .inr h
    · obtain ⟨rfl, hch'⟩ := List.append_inj' hns rfl
      rw [if_neg hp, List.singleton_inj.mp hch']
      exact ⟨hch, h⟩
  · intro h
    split at h
    · rename_i hp
      subst hp
      exact h.elim Matches.skip_last Matches.star_last
    · exact h.2.one_last ‹_› h.1

/-- The row says of the beginnings of the pattern, from some beginning on, whether they match. -/
def IsRow (ns : List Char) : List Char → List Char → List Bool → Prop
  | qs, [], row => ∃ b, row = [b] ∧ (b = true ↔ Matches qs ns)
  | qs, p :: ps, row =>
    ∃ b rest, row = b :: rest ∧ (b = true ↔ Matches qs ns) ∧ IsRow ns (qs ++ [p]) ps rest

theorem isRow_firstRow {qs ps : List Char} {left : Bool} (h : left = true ↔ Matches qs []) :
    IsRow [] qs ps (firstRow left ps) := by
  induction ps generalizing qs left with
  | nil => exact ⟨left, rfl, h⟩
  | cons p ps ih =>
    refine ⟨left, _, rfl, h, ih ?_⟩
    rw [matches_concat_nil, Bool.and_eq_true, h, beq_iff_eq]

/-- **One more character of the name.** -/
theorem IsRow.next {ns qs ps : List Char} {ch : Char} {row : List Bool} {left : Bool}
    (hrow : IsRow ns qs ps row) (h : left = true ↔ Matches qs (ns ++ [ch])) :
    IsRow (ns ++ [ch]) qs ps (nextRow ch left ps row) := by
  induction ps generalizing qs row left with
  | nil => exact ⟨left, rfl, h⟩
  | cons p ps ih =>
    obtain ⟨diagonal, rest, rfl, hdiagonal, hrest⟩ := hrow
    obtain ⟨above, rest', rfl, habove⟩ :
        ∃ above rest', rest = above :: rest' ∧ (above = true ↔ Matches (qs ++ [p]) ns) := by
      cases ps with
      | nil =>
        obtain ⟨above, rfl, habove⟩ := hrest
        exact ⟨above, [], rfl, habove⟩
      | cons q ps =>
        obtain ⟨above, rest', rfl, habove, -⟩ := hrest
        exact ⟨above, rest', rfl, habove⟩
    refine ⟨left, _, rfl, h, ih hrest ?_⟩
    rw [matches_concat_concat]
    split
    · rw [Bool.or_eq_true, h, habove]
    · split
      · rename_i hch
        rw [hdiagonal, and_iff_right hch]
      · rename_i hch
        exact iff_of_false Bool.false_ne_true fun hmatches ↦ hch hmatches.1

/-- The last cell of a row. -/
theorem IsRow.getLastD {ns qs ps : List Char} {row : List Bool} (h : IsRow ns qs ps row) :
    row.getLastD false = true ↔ Matches (qs ++ ps) ns := by
  induction ps generalizing qs row with
  | nil =>
    obtain ⟨b, rfl, hb⟩ := h
    rw [List.append_nil, ← hb]
    rfl
  | cons p ps ih =>
    obtain ⟨b, rest, rfl, -, hrest⟩ := h
    have hne : rest ≠ [] := by
      cases ps with
      | nil =>
        obtain ⟨b, rfl, -⟩ := hrest
        exact List.cons_ne_nil _ _
      | cons q ps =>
        obtain ⟨b, rest, rfl, -⟩ := hrest
        exact List.cons_ne_nil _ _
    obtain ⟨c, rest, rfl⟩ := List.exists_cons_of_ne_nil hne
    rw [List.append_cons, ← ih hrest]
    rfl

/-- **The table computes whether the pattern matches.** -/
theorem globMatch_iff (name pattern : String) :
    globMatch name pattern = true ↔ Matches pattern.toList name.toList := by
  have hrow : ∀ ns ms row, IsRow ms [] pattern.toList row →
      IsRow (ms ++ ns) [] pattern.toList
        (ns.foldl (fun row ch ↦ nextRow ch false pattern.toList row) row) := by
    intro ns
    induction ns with
    | nil =>
      intro ms row h
      rwa [List.append_nil]
    | cons ch ns ih =>
      intro ms row h
      rw [List.append_cons]
      refine ih _ _ (h.next (iff_of_false Bool.false_ne_true fun hmatches ↦ ?_))
      generalize hms : ms ++ [ch] = ms' at hmatches
      cases hmatches
      exact List.append_ne_nil_of_right_ne_nil _ (List.cons_ne_nil _ _) hms
  exact (hrow name.toList [] _ (isRow_firstRow (iff_of_true rfl .nil))).getLastD

example : globMatch "test.rs" "*.rs" = true ∧ globMatch "file" "fil" = false := by decide

/-! ## The disk -/

/-- What the system says of a file. -/
structure Metadata where
  /-- How long it is. -/
  len : ℕ
  /-- When it was last written, in nanoseconds since 1970, where the system knows. -/
  modified : Option ℤ

/-- A file system, and what the system says of its directories and files. -/
structure Disk (C : Type u) extends FileSystem C where
  /-- The names in a directory, if it may be read. -/
  names : Loc → Option (List String)
  /-- What the system says of a file. -/
  metadata : Loc → Metadata
  /-- How the system puts it that something cannot be done with a path. -/
  failure : Path → String
  /-- A name in a directory leads down. -/
  proper_of_mem : ∀ loc list, names loc = some list → ∀ name ∈ list, Proper name
  /-- A name in a directory has no slash in it. -/
  slash_notMem_of_mem : ∀ loc list, names loc = some list → ∀ name ∈ list, '/' ∉ name.toList
  /-- What is below a directory has a name without a slash. -/
  slash_notMem : ∀ loc name nd, node (loc ++ [name]) = some nd → '/' ∉ name.toList

/-- `FileEntry`. -/
structure FileEntry where
  name : String
  path : String
  isDir : Bool
  size : ℕ
  modified : String
  fileType : String
  deriving DecidableEq

/-- The seconds since 1970, or none where there are none to be told. -/
def Metadata.seconds (md : Metadata) : ℕ :=
  match md.modified with
  | some t => if 0 ≤ t then t.toNat / 1000000000 else 0
  | none => 0

/-- The type of a file, as an entry has it. -/
def fileType {C : Type u} : Node C → String
  | .dir => "dir"
  | .link _ => "symlink"
  | .file _ => "file"

/-- The node is a directory. -/
def isDir {C : Type u} : Node C → Bool
  | .dir => true
  | _ => false

/-- What a call opens or describes, and what it returns. -/
structure Outcome where
  /-- The directories that are opened, and the file that is described. -/
  reached : List Loc
  /-- What is returned. -/
  result : Except String (List FileEntry)

/-- The three calls. -/
inductive Call where
  /-- `list_directory`. -/
  | listDirectory (path : String)
  /-- `search_files`. -/
  | searchFiles (path pattern : String)
  /-- `get_file_info`. -/
  | getFileInfo (path : String)

/-- An entry that the walk of a search meets: its path, and the directory if it was opened. -/
structure Visit where
  path : Path
  opened : Option Loc

section Functions

variable {C : Type u} (d : Disk C) (home : Option Path)

/-! ## Which paths are allowed -/

/-- The path below the home directory, before any link is followed. -/
def joinHome (home : Path) (path : String) : Except String Path :=
  if "/".toList <+: path.toList then .error "Absolute paths are not allowed"
  else if "~/".toList <+: path.toList then .ok (home.join (.ofChars (path.toList.drop 2)))
  else if "~".toList <+: path.toList ∧ '/' ∉ path.toList then .ok home
  else if path = "" then .ok home
  else if "..".toList <:+: path.toList then .error "Path traversal (..) is not allowed"
  else .ok (home.join (.ofString path))

/-- `canonicalize`, with the text of the error. -/
def canonicalOr (failed : String) (p : Path) : Except String Path :=
  match d.canonicalize p with
  | some p => .ok p
  | none => .error (failed ++ d.failure p)

/-- `expand_path`. -/
def expandPath (path : String) : Except String Path := do
  let home ← match home with
    | some home => .ok home
    | none => .error "Cannot determine home directory"
  let expanded ← joinHome home path
  let canonical ← canonicalOr d "Cannot access path: " expanded
  let canonicalHome ← canonicalOr d "Cannot verify home directory: " home
  if canonical.StartsWith canonicalHome then .ok canonical
  else .error "Access denied: path escapes home directory"

/-- `check_home_directory`. -/
def checkHomeDirectory (path : Path) : Except String Unit := do
  let home ← match home with
    | some home => .ok home
    | none => .error "Cannot determine home directory"
  let canonicalHome ← canonicalOr d "Cannot canonicalize home directory: " home
  let canonicalPath ← canonicalOr d "Cannot access path: " path
  if canonicalPath.StartsWith canonicalHome then .ok ()
  else .error "Access denied: path is outside home directory"

/-- What all three functions begin with. -/
def checkedPath (path : String) : Except String Path := do
  let expandedPath ← expandPath d home path
  checkHomeDirectory d home expandedPath
  .ok expandedPath

/-! ## The calls -/

/-- `read_dir`: the directory that is opened, and the names in it. -/
def readDir (p : Path) : Option (Loc × List String) :=
  match d.resolve p with
  | none => none
  | some loc =>
    match d.node loc with
    | some .dir => (d.names loc).map fun list ↦ (loc, list)
    | _ => none

/-- Where `symlink_metadata` looks: a link at the end of the path is not followed. -/
def lstat (p : Path) : Option Loc := if p = ⟨true, []⟩ then some [] else d.entry p

/-- What is at the end of the path, a link not followed. -/
def lstatNode (p : Path) : Option (Loc × Node C) :=
  match lstat d p with
  | none => none
  | some loc => (d.node loc).map fun nd ↦ (loc, nd)

/-- An entry, as all three functions make it. -/
def fileEntry (name : String) (p : Path) (loc : Loc) (nd : Node C) : FileEntry where
  name := name
  path := p.text
  isDir := isDir nd
  size := (d.metadata loc).len
  modified := toString (d.metadata loc).seconds
  fileType := fileType nd

/-- The order of a listing: directories first, then by name. -/
def entryLe (a b : FileEntry) : Bool :=
  if a.isDir ≠ b.isDir then a.isDir else decide (a.name ≤ b.name)

/-- `list_directory`. -/
def listDirectory (path : String) : Outcome :=
  match checkedPath d home path with
  | .error e => ⟨[], .error e⟩
  | .ok expandedPath =>
    match readDir d expandedPath with
    | none => ⟨[], .error ("Failed to read directory: " ++ d.failure expandedPath)⟩
    | some (loc, list) =>
      let files := list.filterMap fun name ↦
        let filePath := expandedPath.join ⟨false, [name]⟩
        (lstatNode d filePath).map fun (loc, nd) ↦ fileEntry d name filePath loc nd
      ⟨[loc], .ok (files.mergeSort entryLe)⟩

/-- `WalkDir`, from a path on, so many directories down: a directory is opened and comes before what
is in it, and links are not followed. -/
def walkDir : ℕ → Path → List Visit
  | depth, path =>
    match lstatNode d path with
    | none => []
    | some (_, .dir) =>
      match readDir d path with
      | none => [⟨path, none⟩]
      | some (loc, list) =>
        ⟨path, some loc⟩ :: match depth with
          | 0 => []
          | depth + 1 => list.flatMap fun name ↦ walkDir depth (path.join ⟨false, [name]⟩)
    | some _ => [⟨path, none⟩]

/-- The name of an entry that the walk meets. -/
def visitName (path : Path) : String := path.fileName.getD path.text

/-- The loop of `search_files`: the walk goes on until there are a hundred results. -/
def searchLoop (pattern : String) : List Visit → List Loc → List FileEntry →
    List Loc × List FileEntry
  | [], reached, results => (reached, results)
  | visit :: visits, reached, results =>
    let found := if globMatch (visitName visit.path) pattern = true then
        ((lstatNode d visit.path).map fun (loc, nd) ↦
          fileEntry d (visitName visit.path) visit.path loc nd).toList
      else []
    if 100 ≤ (results ++ found).length then (reached ++ visit.opened.toList, results ++ found)
    else searchLoop pattern visits (reached ++ visit.opened.toList) (results ++ found)

/-- `max_depth`. -/
def maxDepth : ℕ := 5

/-- `search_files`. -/
def searchFiles (path pattern : String) : Outcome :=
  match checkedPath d home path with
  | .error e => ⟨[], .error e⟩
  | .ok expandedPath =>
    let found := searchLoop d pattern (walkDir d maxDepth expandedPath) [] []
    ⟨found.1, .ok found.2⟩

/-- `get_file_info`. -/
def getFileInfo (path : String) : Outcome :=
  match checkedPath d home path with
  | .error e => ⟨[], .error e⟩
  | .ok expandedPath =>
    match d.resolve expandedPath with
    | none => ⟨[], .error ("Failed to get file metadata: " ++ d.failure expandedPath)⟩
    | some loc =>
      match d.node loc with
      | none => ⟨[], .error ("Failed to get file metadata: " ++ d.failure expandedPath)⟩
      | some nd =>
        ⟨[loc], .ok [fileEntry d (expandedPath.fileName.getD "unknown") expandedPath loc nd]⟩

/-- What a call does. -/
def Disk.outcome : Call → Outcome
  | .listDirectory path => listDirectory d home path
  | .searchFiles path pattern => searchFiles d home path pattern
  | .getFileInfo path => getFileInfo d home path

end Functions

/-! ## What is allowed is below the home directory -/

section Confined

variable {C : Type u} {d : Disk C} {home : Option Path} {root loc : Loc}

variable (d home) in
/-- The home directory is at the location, links followed. -/
def HomeAt (root : Loc) : Prop := ∃ h, home = some h ∧ d.resolve h = some root

theorem canonicalOr_eq_ok {failed : String} {p q : Path} (h : canonicalOr d failed p = .ok q) :
    ∃ loc, d.resolve p = some loc ∧ q = ⟨true, loc⟩ := by
  rw [canonicalOr] at h
  split at h
  · rename_i hcanonical
    obtain ⟨loc, hloc, rfl⟩ := Option.map_eq_some_iff.mp hcanonical
    exact ⟨loc, hloc, (Except.ok.inj h).symm⟩
  · cases h

/-- **What comes out of `expand_path`**, by whichever branch the path was taken: a location without
links, and the home directory above it. -/
theorem expandPath_eq_ok {path : String} {p : Path} (h : expandPath d home path = .ok p) :
    ∃ root loc, HomeAt d home root ∧ p = ⟨true, loc⟩ ∧ Plain d.node loc ∧ root <+: loc := by
  cases home with
  | none => cases h
  | some homeDir =>
    dsimp only [expandPath, bind, Except.bind] at h
    split at h
    · cases h
    split at h
    · cases h
    rename_i hcanonical
    obtain ⟨loc, hloc, rfl⟩ := canonicalOr_eq_ok hcanonical
    split at h
    · cases h
    rename_i hcanonicalHome
    obtain ⟨root, hroot, rfl⟩ := canonicalOr_eq_ok hcanonicalHome
    split at h
    · rename_i hstarts
      have hplain := plain_of_resolve hloc
      exact ⟨root, loc, ⟨homeDir, rfl, hroot⟩, (Except.ok.inj h).symm, hplain,
        (startsWith_iff_of_plain hplain (plain_of_resolve hroot)).mp hstarts⟩
    · cases h

theorem checkedPath_eq_ok {path : String} {p : Path} (h : checkedPath d home path = .ok p) :
    ∃ root loc, HomeAt d home root ∧ p = ⟨true, loc⟩ ∧ Plain d.node loc ∧ root <+: loc := by
  rw [checkedPath] at h
  dsimp only [bind, Except.bind] at h
  split at h
  · cases h
  rename_i hexpand
  split at h
  · cases h
  obtain rfl := Except.ok.inj h
  exact expandPath_eq_ok hexpand

/-- The names of a location without links have no slashes in them. -/
theorem slash_notMem_of_plain (h : Plain d.node loc) : ∀ name ∈ loc, '/' ∉ name.toList := by
  induction h with
  | root => exact List.forall_mem_nil _
  | child _ _ _ hnd _ ih =>
    exact List.forall_mem_append.mpr
      ⟨ih, List.forall_mem_singleton.mpr (d.slash_notMem _ _ _ hnd)⟩

/-! ## What the walk meets -/

variable (d root) in
/-- What may be met below a directory: the directory itself, and whatever has a name in a directory
that is below it and has no links above it. -/
structure Met (loc : Loc) : Prop where
  /-- It is below the directory. -/
  parent : loc = root ∨ ∃ dir name, loc = dir ++ [name] ∧ root <+: dir ∧ Plain d.node dir
  /-- The names lead down. -/
  proper : ∀ name ∈ loc, Proper name
  /-- There are no slashes in them. -/
  slash_notMem : ∀ name ∈ loc, '/' ∉ name.toList

theorem met_of_plain (h : Plain d.node loc) (hroot : root <+: loc) : Met d root loc where
  parent := by
    obtain ⟨rest, rfl⟩ := hroot
    obtain rfl | ⟨rest, name, rfl⟩ := List.eq_nil_or_concat' rest
    · exact .inl (List.append_nil root)
    · rw [← List.append_assoc] at h ⊢
      exact .inr ⟨root ++ rest, name, rfl, List.prefix_append .., h.of_append⟩
  proper := h.proper
  slash_notMem := slash_notMem_of_plain h

theorem Met.below (h : Met d root loc) : root <+: loc := by
  obtain rfl | ⟨dir, name, rfl, hdir, -⟩ := h.parent
  · exact List.prefix_rfl
  · exact hdir.trans (List.prefix_append ..)

/-- What is listed in a directory without links above it. -/
theorem Met.child {list : List String} {name : String} (h : Met d root loc)
    (hplain : Plain d.node loc) (hlist : d.names loc = some list) (hname : name ∈ list) :
    Met d root (loc ++ [name]) where
  parent := .inr ⟨loc, name, rfl, h.below, hplain⟩
  proper := List.forall_mem_append.mpr
    ⟨h.proper, List.forall_mem_singleton.mpr (d.proper_of_mem _ _ hlist _ hname)⟩
  slash_notMem := List.forall_mem_append.mpr
    ⟨h.slash_notMem, List.forall_mem_singleton.mpr (d.slash_notMem_of_mem _ _ hlist _ hname)⟩

/-- **What `symlink_metadata` finds in a directory** that has no links above it. -/
theorem lstatNode_child {dir l : Loc} {name : String} {nd : Node C} (hdir : Plain d.node dir)
    (h : lstatNode d ⟨true, dir ++ [name]⟩ = some (l, nd)) :
    l = dir ++ [name] ∧ d.node (dir ++ [name]) = some nd := by
  have hne : (⟨true, dir ++ [name]⟩ : Path) ≠ ⟨true, []⟩ := by simp
  have hbase : (⟨true, dir⟩ : Path) ≠ .empty := by simp [Path.empty]
  rw [lstatNode, lstat, if_neg hne] at h
  split at h
  · cases h
  · rename_i hentry
    obtain ⟨dir', hdir', rfl⟩ := entry_join_name hbase hentry
    obtain rfl := Option.some.inj ((resolve_of_plain hdir).symm.trans hdir')
    obtain ⟨nd', hnd, heq⟩ := Option.map_eq_some_iff.mp h
    obtain ⟨rfl, rfl⟩ := Prod.mk.inj heq
    exact ⟨rfl, hnd⟩

/-- A directory that is opened by a path without links. -/
theorem readDir_of_plain {l : Loc} {list : List String} (h : Plain d.node loc)
    (hread : readDir d ⟨true, loc⟩ = some (l, list)) :
    l = loc ∧ d.node loc = some .dir ∧ d.names loc = some list := by
  rw [readDir, resolve_of_plain h] at hread
  dsimp only at hread
  split at hread
  · rename_i hdir
    obtain ⟨list', hlist, heq⟩ := Option.map_eq_some_iff.mp hread
    obtain ⟨rfl, rfl⟩ := Prod.mk.inj heq
    exact ⟨rfl, hdir, hlist⟩
  · cases hread

/-- The visit is of something that may be met, and what it opened is below the directory. -/
def Visit.Fine (d : Disk C) (root : Loc) (visit : Visit) : Prop :=
  (∃ loc, visit.path = ⟨true, loc⟩ ∧ Met d root loc) ∧ ∀ l ∈ visit.opened, root <+: l

/-- **The walk stays below the directory.**  It goes on at a directory only, and so without a link
above: the induction is on how deep it may still go. -/
theorem confined_walkDir (depth : ℕ) (hmet : Met d root loc)
    (hplain : ∀ l, lstatNode d ⟨true, loc⟩ = some (l, .dir) → Plain d.node loc) :
    ∀ visit ∈ walkDir d depth ⟨true, loc⟩, visit.Fine d root := by
  have hself : Visit.Fine d root ⟨⟨true, loc⟩, none⟩ := ⟨⟨loc, rfl, hmet⟩, by simp⟩
  induction depth generalizing loc with
  | zero =>
    unfold walkDir
    split
    · exact List.forall_mem_nil _
    · rename_i hdir
      split
      · exact List.forall_mem_singleton.mpr hself
      · rename_i hread
        obtain ⟨rfl, -⟩ := readDir_of_plain (hplain _ hdir) hread
        exact List.forall_mem_singleton.mpr ⟨⟨_, rfl, hmet⟩, by simpa using hmet.below⟩
    · exact List.forall_mem_singleton.mpr hself
  | succ depth ih =>
    unfold walkDir
    split
    · exact List.forall_mem_nil _
    · rename_i hdir
      split
      · exact List.forall_mem_singleton.mpr hself
      · rename_i list hread
        have hloc := hplain _ hdir
        obtain ⟨rfl, hnode, hnames⟩ := readDir_of_plain hloc hread
        refine List.forall_mem_cons.mpr ⟨⟨⟨_, rfl, hmet⟩, by simpa using hmet.below⟩, ?_⟩
        intro visit hvisit
        obtain ⟨name, hname, hvisit⟩ := List.mem_flatMap.mp hvisit
        have hmetName := hmet.child hloc hnames hname
        refine ih hmetName (fun l hl ↦ ?_) ⟨⟨_, rfl, hmetName⟩, by simp⟩ visit hvisit
        have hnd := (lstatNode_child hloc hl).2
        refine hloc.child hnode (d.proper_of_mem _ _ hnames _ hname) hnd ?_
        rintro ⟨target, ⟨⟩⟩
    · exact List.forall_mem_singleton.mpr hself

/-! ## What the calls return -/

/-- The path of the entry has a parent directory: it is below the directory `root`, and the text of
the path names it without links. -/
def ParentBelow (d : Disk C) (root : Loc) (e : FileEntry) : Prop :=
  ∃ dir name, (Path.ofString e.path).components = .root :: (dir ++ [name]).map .name ∧
    Plain d.node dir ∧ root <+: dir

/-- The path of the entry is the directory. -/
def IsAt (root : Loc) (e : FileEntry) : Prop :=
  (Path.ofString e.path).components = .root :: root.map .name

/-- An entry has the path of what it was made for. -/
theorem Met.components (h : Met d root loc) {e : FileEntry} (he : e.path = Path.text ⟨true, loc⟩) :
    (Path.ofString e.path).components = .root :: loc.map .name := by
  rw [he, components_ofString_text h.slash_notMem, components_of_proper h.proper]

/-- An entry of something that may be met. -/
theorem Met.entry (h : Met d root loc) {e : FileEntry} (he : e.path = Path.text ⟨true, loc⟩) :
    ParentBelow d root e ∨ IsAt root e := by
  have hcomponents := h.components he
  obtain rfl | ⟨dir, name, rfl, hdir, hplain⟩ := h.parent
  · exact .inr hcomponents
  · exact .inl ⟨dir, name, hcomponents, hplain, hdir⟩

/-- **The loop of a search**: what it has reached and found at any time, and so at its end. -/
theorem searchLoop_fine (pattern : String) {visits : List Visit}
    (hvisits : ∀ visit ∈ visits, visit.Fine d root) {reached : List Loc} {results : List FileEntry}
    (hreached : ∀ l ∈ reached, root <+: l)
    (hresults : ∀ e ∈ results, ParentBelow d root e ∨ IsAt root e) :
    (∀ l ∈ (searchLoop d pattern visits reached results).1, root <+: l) ∧
      ∀ e ∈ (searchLoop d pattern visits reached results).2,
        ParentBelow d root e ∨ IsAt root e := by
  induction visits generalizing reached results with
  | nil => exact ⟨hreached, hresults⟩
  | cons visit visits ih =>
    obtain ⟨⟨⟨loc, hpath, hmet⟩, hopened⟩, hrest⟩ := List.forall_mem_cons.mp hvisits
    have hreached' : ∀ l ∈ reached ++ visit.opened.toList, root <+: l := by
      refine List.forall_mem_append.mpr ⟨hreached, fun l hl ↦ hopened l ?_⟩
      exact Option.mem_toList.mp hl
    rw [searchLoop]
    generalize hfound : (if globMatch (visitName visit.path) pattern = true then _ else _) = found
    have hresults' : ∀ e ∈ results ++ found, ParentBelow d root e ∨ IsAt root e := by
      refine List.forall_mem_append.mpr ⟨hresults, fun e he ↦ ?_⟩
      rw [← hfound] at he
      split at he
      · obtain ⟨⟨l, nd⟩, -, rfl⟩ := Option.map_eq_some_iff.mp (Option.mem_toList.mp he)
        exact hmet.entry (congrArg Path.text hpath)
      · cases he
    split
    · exact ⟨hreached', hresults'⟩
    · exact ih hrest hreached' hresults'

/-- The loop ends with a hundred entries at most. -/
theorem length_searchLoop_le {pattern : String} (visits : List Visit) (reached : List Loc)
    {results : List FileEntry} (h : results.length < 100) :
    (searchLoop d pattern visits reached results).2.length ≤ 100 := by
  induction visits generalizing reached results with
  | nil => exact h.le
  | cons visit visits ih =>
    rw [searchLoop]
    generalize hfound : (if globMatch (visitName visit.path) pattern = true then _ else _) = found
    have hone : found.length ≤ 1 := by
      rw [← hfound]
      split
      · exact Option.length_toList_le
      · exact Nat.zero_le 1
    split
    · rw [List.length_append]
      omega
    · exact ih _ (by omega)

variable (d home) in
/-- **A call is confined**: what it opens or describes is the home directory or below it, and of
each entry that it returns, `Allowed` holds. -/
structure Confined (out : Outcome) (Allowed : Loc → FileEntry → Prop) : Prop where
  /-- What is opened or described. -/
  reached : ∀ loc ∈ out.reached, ∃ root, HomeAt d home root ∧ root <+: loc
  /-- What is returned. -/
  entries : ∀ list, out.result = .ok list → ∀ e ∈ list, ∃ root, HomeAt d home root ∧ Allowed root e

variable {Allowed : Loc → FileEntry → Prop}

/-- A call that fails before it reaches anything. -/
theorem confined_error (e : String) : Confined d home ⟨[], .error e⟩ Allowed where
  reached := List.forall_mem_nil _
  entries := nofun

/-- A call that goes by one home directory. -/
theorem confined_ok {reached : List Loc} {list : List FileEntry} (hhome : HomeAt d home root)
    (hreached : ∀ loc ∈ reached, root <+: loc) (hlist : ∀ e ∈ list, Allowed root e) :
    Confined d home ⟨reached, .ok list⟩ Allowed where
  reached loc hloc := ⟨root, hhome, hreached loc hloc⟩
  entries list' h e he := by
    obtain rfl := Except.ok.inj h
    exact ⟨root, hhome, hlist e he⟩

theorem Confined.mono {out : Outcome} {Allowed' : Loc → FileEntry → Prop}
    (h : Confined d home out Allowed) (hallowed : ∀ root e, Allowed root e → Allowed' root e) :
    Confined d home out Allowed' where
  reached := h.reached
  entries list hlist e he := by
    obtain ⟨root, hhome, hentry⟩ := h.entries list hlist e he
    exact ⟨root, hhome, hallowed root e hentry⟩

/-- **A listing** has nothing in it but what is in the directory. -/
theorem confined_listDirectory (path : String) :
    Confined d home (listDirectory d home path) (ParentBelow d) := by
  rw [listDirectory]
  split
  · exact confined_error _
  · rename_i hpath
    obtain ⟨root, loc, hhome, rfl, hplain, hroot⟩ := checkedPath_eq_ok hpath
    split
    · exact confined_error _
    · rename_i hread
      obtain ⟨rfl, -, hlist⟩ := readDir_of_plain hplain hread
      refine confined_ok hhome (List.forall_mem_singleton.mpr hroot) fun e he ↦ ?_
      obtain ⟨name, hname, he⟩ := List.mem_filterMap.mp ((List.mergeSort_perm ..).mem_iff.mp he)
      obtain ⟨⟨l, nd⟩, -, rfl⟩ := Option.map_eq_some_iff.mp he
      have hmet := (met_of_plain hplain hroot).child hplain hlist hname
      exact ⟨_, name, hmet.components rfl, hplain, hroot⟩

/-- **A search** returns what the walk meets. -/
theorem confined_searchFiles (path pattern : String) :
    Confined d home (searchFiles d home path pattern) fun root e ↦
      ParentBelow d root e ∨ IsAt root e := by
  rw [searchFiles]
  split
  · exact confined_error _
  · rename_i hpath
    obtain ⟨root, loc, hhome, rfl, hplain, hroot⟩ := checkedPath_eq_ok hpath
    have hvisits := confined_walkDir maxDepth (met_of_plain hplain hroot) fun _ _ ↦ hplain
    have hfine := searchLoop_fine pattern hvisits (List.forall_mem_nil _) (List.forall_mem_nil _)
    exact confined_ok hhome hfine.1 hfine.2

/-- **A search returns a hundred entries at most.** -/
theorem length_searchFiles_le {path pattern : String} {list : List FileEntry}
    (h : (searchFiles d home path pattern).result = .ok list) : list.length ≤ 100 := by
  rw [searchFiles] at h
  split at h
  · cases h
  · obtain rfl := Except.ok.inj h
    exact length_searchLoop_le _ _ (Nat.zero_lt_succ _)

/-- **A description** is one of what the path leads to. -/
theorem confined_getFileInfo (path : String) :
    Confined d home (getFileInfo d home path) fun root e ↦
      ParentBelow d root e ∨ IsAt root e := by
  rw [getFileInfo]
  split
  · exact confined_error _
  · rename_i hpath
    obtain ⟨root, loc, hhome, rfl, hplain, hroot⟩ := checkedPath_eq_ok hpath
    rw [resolve_of_plain hplain]
    dsimp only
    split
    · exact confined_error _
    · exact confined_ok hhome (List.forall_mem_singleton.mpr hroot)
        (List.forall_mem_singleton.mpr ((met_of_plain hplain hroot).entry rfl))

end Confined

/-- **The file API is confined to the home directory.**  An entry has its parent directory there,
too; only that the home directory itself, which a search below it begins with and which
`get_file_info` may be asked for, need not. -/
theorem confined {C : Type u} (d : Disk C) (home : Option Path) (call : Call) :
    Confined d home (d.outcome home call) fun root e ↦
      ParentBelow d root e ∨ (∀ path, call ≠ .listDirectory path) ∧ IsAt root e := by
  cases call with
  | listDirectory path => exact (confined_listDirectory path).mono fun _ _ hparent ↦ .inl hparent
  | searchFiles path pattern =>
    exact (confined_searchFiles path pattern).mono fun _ _ hentry ↦
      hentry.imp_right fun hat ↦ ⟨fun _ ↦ Call.noConfusion, hat⟩
  | getFileInfo path =>
    exact (confined_getFileInfo path).mono fun _ _ hentry ↦
      hentry.imp_right fun hat ↦ ⟨fun _ ↦ Call.noConfusion, hat⟩

/-- A disk with nothing on it but a home directory. -/
def exampleDisk : Disk Unit where
  node loc := if loc = [] ∨ loc = ["h"] then some .dir else none
  cwd := []
  maxLinks := 40
  cwd_plain := .root
  names loc := if loc = ["h"] then some [] else none
  metadata _ := ⟨4096, none⟩
  failure _ := "No such file or directory (os error 2)"
  proper_of_mem loc list h := by
    split at h
    · obtain rfl := Option.some.inj h
      exact List.forall_mem_nil _
    · cases h
  slash_notMem_of_mem loc list h := by
    split at h
    · obtain rfl := Option.some.inj h
      exact List.forall_mem_nil _
    · cases h
  slash_notMem loc name nd h := by
    split at h
    · rename_i hloc
      obtain hnil | hh := hloc
      · exact absurd hnil (List.append_ne_nil_of_right_ne_nil _ (List.cons_ne_nil _ _))
      · obtain ⟨-, hname⟩ := List.append_inj' (hh.trans (List.nil_append ["h"]).symm) rfl
        rw [List.singleton_inj.mp hname]
        decide
    · cases h

/-- **A search returns the home directory itself**, whose parent directory is outside. -/
theorem not_confined_parentBelow :
    ¬ ∀ call, Confined exampleDisk (some ⟨true, ["h"]⟩)
      (exampleDisk.outcome (some ⟨true, ["h"]⟩) call) (ParentBelow exampleDisk) := by
  intro h
  obtain ⟨root, ⟨homeDir, hhome, hroot⟩, dir, name, hcomponents, -, hdir⟩ :=
    (h (.searchFiles "~" "*")).entries
      [⟨"h", "/h", true, 4096, "0", "dir"⟩] rfl _ (List.mem_singleton.mpr rfl)
  obtain rfl := Option.some.inj hhome
  obtain rfl : ["h"] = root := Option.some.inj hroot
  have htwo : (Path.ofString "/h").components.length = 2 := by decide
  have hlength := htwo.symm.trans (congrArg List.length hcomponents)
  rw [List.length_cons, List.length_map, List.length_append, List.length_singleton] at hlength
  have hle : 1 ≤ dir.length := hdir.length_le
  omega

end WorkWithMe.Server.FileApi
