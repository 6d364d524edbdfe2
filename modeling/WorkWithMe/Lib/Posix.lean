import Mathlib.Data.List.Basic
import Mathlib.Data.List.Induction
import Mathlib.Logic.Function.Basic
import WorkWithMe.Lib.Rust

/-!
# Paths, and what they name

A path is a text with slashes in it.  Some operations look at nothing but the text: they join two
paths, compare one with the beginning of another, or take the last name of one.  The system, on the
other hand, walks along a path from directory to directory, follows the symbolic links on its way,
and ends at a location, which is a list of names and has no links in it any more.

* `Path.ofString`, `Path.join`, `Path.StartsWith` and `Path.fileName` are the operations on texts.
* `FileSystem.resolve` is the walk, `FileSystem.create` the one that ends in a file that need not be
  there yet, `FileSystem.entry` the one that does not follow the last name, and
  `FileSystem.canonicalize` gives the location as a path.
* `Walks` is the walk as a relation, by induction on which all is proved: `Walks.split` takes a walk
  apart, `Walks.plain` says that a walk ends at a location without links, and `Plain.walks` that a
  walk along such a location ends where it says.
* `components_ofString_text` says that the text of a location is read back as that location.
* `createDirAll_extends` says what `create_dir_all` does: it adds directories.
-/

set_option autoImplicit false

namespace Posix

universe u

/-! ## Texts -/

/-- A path: whether it begins at the root, and what stands between its slashes. -/
structure Path where
  /-- It begins with a slash. -/
  absolute : Bool
  /-- What stands between the slashes. -/
  segs : List String
  deriving DecidableEq

/-- What stands between the slashes of a text. -/
def segments (cs : List Char) : List String := (cs.splitOn '/').map String.ofList

/-- The path with the characters. -/
def Path.ofChars : List Char → Path
  | '/' :: cs => ⟨true, segments cs⟩
  | cs => ⟨false, segments cs⟩

/-- The path with the text. -/
def Path.ofString (s : String) : Path := .ofChars s.toList

/-- The path with the empty text. -/
def Path.empty : Path := ⟨false, [""]⟩

/-- The text of a path. -/
def Path.text (p : Path) : String := (if p.absolute then "/" else "") ++ "/".intercalate p.segs

/-- `join`: a path that begins at the root replaces the other one. -/
def Path.join (base p : Path) : Path :=
  if p.absolute then p else ⟨base.absolute, base.segs ++ p.segs⟩

/-- The last segment of a path that is joined is the last of both. -/
theorem exists_join_segs {base p : Path} {segs : List String} {seg : String}
    (hp : p.segs = segs ++ [seg]) : ∃ segs, (base.join p).segs = segs ++ [seg] := by
  rw [Path.join]
  split
  · exact ⟨segs, hp⟩
  · exact ⟨base.segs ++ segs, by rw [hp, List.append_assoc]⟩

/-- A segment that leads nowhere. -/
def Here (seg : String) : Prop := seg = "" ∨ seg = "."

instance (seg : String) : Decidable (Here seg) := inferInstanceAs (Decidable (_ ∨ _))

/-- A segment that leads down. -/
def Proper (seg : String) : Prop := ¬ Here seg ∧ seg ≠ ".."

instance (seg : String) : Decidable (Proper seg) := inferInstanceAs (Decidable (_ ∧ _))

/-- A name with an extension leads down. -/
theorem proper_append (s : String) {ext : String} (hext : 3 ≤ ext.length) : Proper (s ++ ext) := by
  have hlength : 3 ≤ (s ++ ext).length := by
    rw [String.length_append]
    omega
  refine ⟨?_, ?_⟩
  · rintro (h | h)
    all_goals
      rw [h] at hlength
      exact absurd hlength (by decide)
  · intro h
    rw [h] at hlength
    exact absurd hlength (by decide)

/-- A component of a path. -/
inductive Component where
  /-- The root. -/
  | root
  /-- A name, or two dots. -/
  | name (seg : String)
  deriving DecidableEq

/-- The components of a path. -/
def Path.components (p : Path) : List Component :=
  (if p.absolute then [.root] else []) ++ (p.segs.filter fun seg ↦ ¬ Here seg).map .name

/-- The components of names on the way down from the root. -/
theorem components_of_proper {loc : List String} (h : ∀ name ∈ loc, Proper name) :
    Path.components ⟨true, loc⟩ = .root :: loc.map .name := by
  have hfilter : loc.filter (fun seg ↦ ¬ Here seg) = loc :=
    List.filter_eq_self.mpr fun name hname ↦ decide_eq_true (h name hname).1
  rw [Path.components, hfilter]
  rfl

/-- `starts_with`. -/
def Path.StartsWith (p base : Path) : Prop := base.components <+: p.components

instance (p base : Path) : Decidable (p.StartsWith base) :=
  inferInstanceAs (Decidable (_ <+: _))

/-- `file_name`. -/
def Path.fileName (p : Path) : Option String :=
  match p.components.getLast? with
  | some (.name seg) => if seg = ".." then none else some seg
  | _ => none

/-- A segment has no slash in it. -/
theorem slash_notMem_of_mem_splitOn {cs part : List Char} (h : part ∈ cs.splitOn '/') :
    '/' ∉ part := by
  induction cs generalizing part with
  | nil =>
    rw [List.splitOn_nil, List.mem_singleton] at h
    rw [h]
    exact List.not_mem_nil
  | cons c cs ih =>
    obtain ⟨head, tail, hsplit⟩ := List.exists_cons_of_ne_nil (List.splitOn_ne_nil '/' cs)
    rw [List.splitOn_cons_eq_if_modifyHead, hsplit] at h
    rw [hsplit] at ih
    split at h
    · obtain rfl | h := List.mem_cons.mp h
      · exact List.not_mem_nil
      · exact ih h
    · rename_i hc
      obtain rfl | h := List.mem_cons.mp h
      · have hne : '/' ≠ c := fun hcc ↦ hc (by rw [hcc, beq_self_eq_true])
        exact fun hmem ↦ (List.mem_cons.mp hmem).elim hne (ih List.mem_cons_self)
      · exact ih (List.mem_cons_of_mem head h)

/-- Each of the texts that are put together is a part of the whole. -/
theorem infix_intercalate_of_mem {α : Type u} {sep xs : List α} {xss : List (List α)}
    (h : xs ∈ xss) : xs <:+: sep.intercalate xss := by
  induction xss with
  | nil => exact absurd h List.not_mem_nil
  | cons ys xss ih =>
    cases xss with
    | nil =>
      obtain rfl := List.mem_singleton.mp h
      have hself : sep.intercalate [xs] = xs := List.intercalate_singleton
      exact hself.symm ▸ List.infix_rfl
    | cons zs xss =>
      rw [List.intercalate_cons_cons, List.append_assoc]
      obtain rfl | h := List.mem_cons.mp h
      · exact (List.prefix_append ..).isInfix
      · exact ((ih h).trans (List.suffix_append ..).isInfix).trans (List.suffix_append ..).isInfix

/-- A segment is a part of the text. -/
theorem infix_of_mem_segments {cs : List Char} {seg : String} (h : seg ∈ segments cs) :
    seg.toList <:+: cs := by
  obtain ⟨part, hpart, rfl⟩ := List.mem_map.mp h
  have hinfix : part <:+: List.intercalate ['/'] (cs.splitOn '/') :=
    infix_intercalate_of_mem hpart
  rwa [List.intercalate_splitOn, ← String.toList_ofList (l := part)] at hinfix

/-- The path with a text has a segment that is the last, and no slash in that. -/
theorem exists_last_ofString (s : String) :
    ∃ segs seg, (Path.ofString s).segs = segs ++ [seg] ∧ '/' ∉ seg.toList := by
  obtain ⟨cs, hcs⟩ : ∃ cs, (Path.ofString s).segs = segments cs := by
    rw [Path.ofString, Path.ofChars.eq_def]
    split
    · exact ⟨_, rfl⟩
    · exact ⟨_, rfl⟩
  obtain ⟨parts, part, hparts⟩ := List.eq_nil_or_concat (cs.splitOn '/') |>.resolve_left
    (List.splitOn_ne_nil '/' cs)
  refine ⟨parts.map String.ofList, String.ofList part, ?_, ?_⟩
  · rw [hcs, segments, hparts, List.concat_eq_append, List.map_append, List.map_singleton]
  · rw [String.toList_ofList]
    have hmem : part ∈ cs.splitOn '/' := by
      rw [hparts, List.concat_eq_append]
      exact List.mem_concat_self
    exact slash_notMem_of_mem_splitOn hmem

/-- A path that does not end in a segment that leads nowhere has a name in it. -/
theorem exists_filter_eq_cons (segs : List String) {seg : String} (hseg : ¬ Here seg) :
    ∃ name rest, (segs ++ [seg]).filter (fun x ↦ ¬ Here x) = name :: rest := by
  have hmem : seg ∈ (segs ++ [seg]).filter (fun x ↦ ¬ Here x) := by simp [hseg]
  exact List.exists_cons_of_ne_nil (List.ne_nil_of_mem hmem)

/-- A text without slashes is one segment. -/
theorem ofString_of_slash_notMem {s : String} (hs : '/' ∉ s.toList) :
    Path.ofString s = ⟨false, [s]⟩ := by
  have hsegments : segments s.toList = [s] := by
    rw [segments, List.splitOn_eq_singleton hs, List.map_singleton, String.ofList_toList]
  rw [Path.ofString, Path.ofChars, hsegments]
  rintro cs h
  exact hs (h ▸ List.mem_cons_self)

/-- The segments of a text that is put together around a slash. -/
theorem segments_append_slash (cs ds : List Char) :
    segments (cs ++ '/' :: ds) = segments cs ++ segments ds := by
  rw [segments, List.splitOn_append_cons_self, List.map_append]
  rfl

/-- The segments of names that are put together with slashes. -/
theorem segments_intercalate {loc : List String} (hne : loc ≠ [])
    (hloc : ∀ name ∈ loc, '/' ∉ name.toList) : segments ("/".intercalate loc).toList = loc := by
  have hslash : String.singleton '/' = "/" := rfl
  rw [segments, ← hslash]
  exact Rust.map_ofList_splitOn_intercalate hne hloc

/-- **The text of names on the way down from the root** is read back as these names. -/
theorem components_ofString_text {loc : List String} (hloc : ∀ name ∈ loc, '/' ∉ name.toList) :
    (Path.ofString (Path.text ⟨true, loc⟩)).components = Path.components ⟨true, loc⟩ := by
  have htext : (Path.text ⟨true, loc⟩).toList = '/' :: ("/".intercalate loc).toList := by
    rw [Path.text, if_pos rfl, String.toList_append]
    rfl
  rw [Path.ofString, htext, Path.ofChars]
  by_cases hne : loc = []
  · subst hne
    decide
  · rw [segments_intercalate hne hloc]

/-- The last name of a path. -/
theorem fileName_of_last (s : String) {name : String} (hname : '/' ∉ name.toList)
    (hproper : Proper name) : (Path.ofString (s ++ "/" ++ name)).fileName = some name := by
  have hsegments : segments name.toList = [name] := by
    rw [segments, List.splitOn_eq_singleton hname, List.map_singleton, String.ofList_toList]
  obtain ⟨absolute, segs, hpath⟩ : ∃ absolute segs,
      Path.ofString (s ++ "/" ++ name) = ⟨absolute, segs ++ [name]⟩ := by
    have htext : (s ++ "/" ++ name).toList = s.toList ++ '/' :: name.toList := by
      rw [String.toList_append, String.toList_append, List.append_assoc]
      rfl
    rw [Path.ofString, htext]
    cases hs : s.toList with
    | nil => exact ⟨true, [], congrArg _ hsegments⟩
    | cons c cs =>
      rw [Path.ofChars.eq_def]
      split
      · rename_i rest hrest
        obtain rfl : cs ++ '/' :: name.toList = rest := (List.cons.inj hrest).2
        rw [segments_append_slash, hsegments]
        exact ⟨true, segments cs, rfl⟩
      · rw [segments_append_slash, hsegments]
        exact ⟨false, segments (c :: cs), rfl⟩
  have hlast : (segs ++ [name]).filter (fun seg ↦ ¬ Here seg) =
      segs.filter (fun seg ↦ ¬ Here seg) ++ [name] := by
    rw [List.filter_append]
    simp [hproper.1]
  rw [hpath, Path.fileName, Path.components, hlast, List.map_append, ← List.append_assoc,
    List.map_singleton, List.getLast?_concat]
  exact if_neg hproper.2

/-! ## The walk -/

/-- Where something is: the names on the way down from the root. -/
abbrev Loc := List String

/-- What is at a location. -/
inductive Node (C : Type u) where
  /-- A directory. -/
  | dir
  /-- A file, with what it holds. -/
  | file (content : C)
  /-- A symbolic link. -/
  | link (target : Path)

/-- The node is a symbolic link. -/
def Node.IsLink {C : Type u} (nd : Node C) : Prop := ∃ target, nd = .link target

section Walk

variable {C : Type u} (node : Loc → Option (Node C))

/-- Walk along the segments; `follow` goes on with what is to be walked after a link, and with
`new` the last name may be missing. -/
def walkSegs (follow : Loc → List String → Option Loc) (new : Bool) :
    Loc → List String → Option Loc
  | loc, [] => some loc
  | loc, seg :: rest =>
    match node loc with
    | some .dir =>
      if Here seg then walkSegs follow new loc rest
      else if seg = ".." then walkSegs follow new loc.dropLast rest
      else
        match node (loc ++ [seg]) with
        | some (.link target) => follow (if target.absolute then [] else loc) (target.segs ++ rest)
        | some _ => walkSegs follow new (loc ++ [seg]) rest
        | none => if new = true ∧ rest = [] then some (loc ++ [seg]) else none
    | _ => none

/-- Walk along the segments, over as many links at most. -/
def walk (new : Bool) : ℕ → Loc → List String → Option Loc
  | 0 => walkSegs node (fun _ _ ↦ none) new
  | links + 1 => walkSegs node (walk new links) new

/-- **The walk as a relation.** -/
inductive Walks (new : Bool) : ℕ → Loc → List String → Loc → Prop
  /-- There is nothing left to walk. -/
  | done {links : ℕ} {loc : Loc} : Walks new links loc [] loc
  /-- A segment that leads nowhere. -/
  | here {links : ℕ} {loc r : Loc} {seg : String} {rest : List String} :
      node loc = some .dir → Here seg → Walks new links loc rest r →
        Walks new links loc (seg :: rest) r
  /-- Two dots. -/
  | up {links : ℕ} {loc r : Loc} {rest : List String} :
      node loc = some .dir → Walks new links loc.dropLast rest r →
        Walks new links loc (".." :: rest) r
  /-- A name of a directory or a file. -/
  | down {links : ℕ} {loc r : Loc} {seg : String} {rest : List String} {nd : Node C} :
      node loc = some .dir → Proper seg → node (loc ++ [seg]) = some nd → ¬ nd.IsLink →
        Walks new links (loc ++ [seg]) rest r → Walks new links loc (seg :: rest) r
  /-- A name of a link. -/
  | follow {links : ℕ} {loc r : Loc} {seg : String} {rest : List String} {target : Path} :
      node loc = some .dir → Proper seg → node (loc ++ [seg]) = some (.link target) →
        Walks new links (if target.absolute then [] else loc) (target.segs ++ rest) r →
          Walks new (links + 1) loc (seg :: rest) r
  /-- A name that is not there, at the end of a path. -/
  | last {links : ℕ} {loc : Loc} {seg : String} :
      new = true → node loc = some .dir → Proper seg → node (loc ++ [seg]) = none →
        Walks new links loc [seg] (loc ++ [seg])

variable {node} {new : Bool} {links : ℕ} {loc r : Loc} {segs : List String}

/-- What `walkSegs` finds is a walk, if what is found after a link is. -/
theorem walks_of_walkSegs {follow : Loc → List String → Option Loc}
    (hfollow : ∀ loc r seg rest target, node loc = some .dir → Proper seg →
      node (loc ++ [seg]) = some (.link target) →
      follow (if target.absolute then [] else loc) (target.segs ++ rest) = some r →
        Walks node new links loc (seg :: rest) r)
    (h : walkSegs node follow new loc segs = some r) : Walks node new links loc segs r := by
  induction segs generalizing loc with
  | nil =>
    obtain rfl := Option.some.inj h
    exact .done
  | cons seg rest ih =>
    rw [walkSegs] at h
    split at h
    · rename_i hdir
      by_cases hhere : Here seg
      · rw [if_pos hhere] at h
        exact .here hdir hhere (ih h)
      · rw [if_neg hhere] at h
        by_cases hup : seg = ".."
        · rw [if_pos hup] at h
          exact hup ▸ .up hdir (ih h)
        · rw [if_neg hup] at h
          have hproper : Proper seg := ⟨hhere, hup⟩
          split at h
          · exact hfollow _ _ _ _ _ hdir hproper ‹_› h
          · rename_i hlink hnd
            refine .down hdir hproper hnd ?_ (ih h)
            rintro ⟨target, rfl⟩
            exact hlink target rfl
          · split at h
            · rename_i hmissing hlast
              obtain ⟨hnew, rfl⟩ := hlast
              obtain rfl := Option.some.inj h
              exact .last hnew hdir hproper hmissing
            · cases h
    · cases h

/-- **What is found is a walk.** -/
theorem walks_of_walk (h : walk node new links loc segs = some r) :
    Walks node new links loc segs r := by
  induction links generalizing loc r segs with
  | zero =>
    refine walks_of_walkSegs (fun _ _ _ _ _ _ _ _ hnone ↦ ?_) h
    cases hnone
  | succ links ih =>
    exact walks_of_walkSegs (fun _ _ _ _ _ hdir hseg hlink hrest ↦
      .follow hdir hseg hlink (ih hrest)) h

/-- How many links there may be matters where there is one only. -/
theorem exists_walk_eq (node : Loc → Option (Node C)) (new : Bool) (links : ℕ) :
    ∃ follow, ∀ loc segs, walk node new links loc segs = walkSegs node follow new loc segs := by
  cases links with
  | zero => exact ⟨_, fun _ _ ↦ rfl⟩
  | succ links => exact ⟨_, fun _ _ ↦ rfl⟩

/-- **Every walk is found.** -/
theorem walk_of_walks (h : Walks node new links loc segs r) :
    walk node new links loc segs = some r := by
  induction h with
  | @done links loc =>
    obtain ⟨follow, hwalk⟩ := exists_walk_eq node new links
    rw [hwalk, walkSegs]
  | @here links loc r seg rest hdir hhere _ ih =>
    obtain ⟨follow, hwalk⟩ := exists_walk_eq node new links
    rw [hwalk] at ih ⊢
    simpa only [walkSegs, hdir, if_pos hhere] using ih
  | @up links loc r rest hdir _ ih =>
    obtain ⟨follow, hwalk⟩ := exists_walk_eq node new links
    have hhere : ¬ Here ".." := by decide
    rw [hwalk] at ih ⊢
    simpa only [walkSegs, hdir, if_neg hhere, if_true] using ih
  | @down links loc r seg rest nd hdir hseg hnd hlink _ ih =>
    obtain ⟨follow, hwalk⟩ := exists_walk_eq node new links
    rw [hwalk] at ih ⊢
    cases nd with
    | link target => exact absurd ⟨target, rfl⟩ hlink
    | dir => simpa only [walkSegs, hdir, if_neg hseg.1, if_neg hseg.2, hnd] using ih
    | file content => simpa only [walkSegs, hdir, if_neg hseg.1, if_neg hseg.2, hnd] using ih
  | follow hdir hseg hlink _ ih =>
    simpa only [walk, walkSegs, hdir, if_neg hseg.1, if_neg hseg.2, hlink] using ih
  | @last links loc seg hnew hdir hseg hmissing =>
    obtain ⟨follow, hwalk⟩ := exists_walk_eq node new links
    rw [hwalk]
    simp only [walkSegs, hdir, if_neg hseg.1, if_neg hseg.2, hmissing, hnew, and_self, if_true]

/-- **A walk taken apart**: first one part of the path, and from where that leads the other. -/
theorem Walks.split {a b : List String} (h : Walks node new links loc (a ++ b) r) (hb : b ≠ []) :
    ∃ mid rest, Walks node false links loc a mid ∧ Walks node new rest mid b r := by
  generalize hab : a ++ b = segs at h
  induction h generalizing a with
  | done => exact absurd (List.append_eq_nil_iff.mp hab).2 hb
  | here hdir hhere hwalks ih =>
    obtain ⟨rfl, rfl⟩ | ⟨a, rfl, rfl⟩ := List.append_eq_cons_iff.mp hab
    · exact ⟨_, _, .done, .here hdir hhere hwalks⟩
    · obtain ⟨mid, rest, hfirst, hsecond⟩ := ih rfl
      exact ⟨mid, rest, .here hdir hhere hfirst, hsecond⟩
  | up hdir hwalks ih =>
    obtain ⟨rfl, rfl⟩ | ⟨a, rfl, rfl⟩ := List.append_eq_cons_iff.mp hab
    · exact ⟨_, _, .done, .up hdir hwalks⟩
    · obtain ⟨mid, rest, hfirst, hsecond⟩ := ih rfl
      exact ⟨mid, rest, .up hdir hfirst, hsecond⟩
  | down hdir hseg hnd hlink hwalks ih =>
    obtain ⟨rfl, rfl⟩ | ⟨a, rfl, rfl⟩ := List.append_eq_cons_iff.mp hab
    · exact ⟨_, _, .done, .down hdir hseg hnd hlink hwalks⟩
    · obtain ⟨mid, rest, hfirst, hsecond⟩ := ih rfl
      exact ⟨mid, rest, .down hdir hseg hnd hlink hfirst, hsecond⟩
  | follow hdir hseg hlink hwalks ih =>
    obtain ⟨rfl, rfl⟩ | ⟨a, rfl, rfl⟩ := List.append_eq_cons_iff.mp hab
    · exact ⟨_, _, .done, .follow hdir hseg hlink hwalks⟩
    · obtain ⟨mid, rest, hfirst, hsecond⟩ := ih (List.append_assoc ..)
      exact ⟨mid, rest, .follow hdir hseg hlink hfirst, hsecond⟩
  | last hnew hdir hseg hmissing =>
    obtain ⟨rfl, rfl⟩ | ⟨a, rfl, hrest⟩ := List.append_eq_cons_iff.mp hab
    · exact ⟨_, 0, .done, .last hnew hdir hseg hmissing⟩
    · exact absurd (List.append_eq_nil_iff.mp hrest.symm).2 hb

/-- A walk that ends at what is there can be taken where more is there. -/
theorem Walks.mono {node' : Loc → Option (Node C)}
    (hnode : ∀ l nd, node l = some nd → node' l = some nd)
    (h : Walks node false links loc segs r) : Walks node' false links loc segs r := by
  induction h with
  | done => exact .done
  | here hdir hhere _ ih => exact .here (hnode _ _ hdir) hhere ih
  | up hdir _ ih => exact .up (hnode _ _ hdir) ih
  | down hdir hseg hnd hlink _ ih => exact .down (hnode _ _ hdir) hseg (hnode _ _ hnd) hlink ih
  | follow hdir hseg hlink _ ih => exact .follow (hnode _ _ hdir) hseg (hnode _ _ hlink) ih
  | last hnew _ _ _ => exact absurd hnew Bool.false_ne_true

/-! ## Locations without links -/

variable (node) in
/-- **The location can be reached without a link**: every name on the way down is one, and what it
names is not a link. -/
inductive Plain : Loc → Prop
  /-- The root. -/
  | root : Plain []
  /-- What is in a directory. -/
  | child {loc : Loc} {name : String} {nd : Node C} : Plain loc → node loc = some .dir →
      Proper name → node (loc ++ [name]) = some nd → ¬ nd.IsLink → Plain (loc ++ [name])

/-- What there is to say of the last name of a location. -/
theorem Plain.last {name : String} (h : Plain node (loc ++ [name])) :
    Plain node loc ∧ node loc = some .dir ∧ Proper name ∧
      ∃ nd, node (loc ++ [name]) = some nd ∧ ¬ nd.IsLink := by
  generalize hloc : loc ++ [name] = l at h
  cases h with
  | root => exact absurd hloc (List.append_ne_nil_of_right_ne_nil _ (List.cons_ne_nil _ _))
  | child hplain hdir hname hnd hlink =>
    obtain ⟨rfl, hlast⟩ := List.append_inj' hloc rfl
    obtain rfl := List.singleton_inj.mp hlast
    exact ⟨hplain, hdir, hname, _, hnd, hlink⟩

/-- What is above a location without links is one. -/
theorem Plain.of_append {a b : Loc} (h : Plain node (a ++ b)) : Plain node a := by
  induction b using List.reverseRecOn with
  | nil => rwa [List.append_nil] at h
  | append_singleton b name ih =>
    rw [← List.append_assoc] at h
    exact ih h.last.1

theorem Plain.dropLast (h : Plain node loc) : Plain node loc.dropLast := by
  cases h with
  | root => exact .root
  | child hplain _ _ _ _ => rwa [List.dropLast_concat]

/-- Above a name there is a directory. -/
theorem Plain.dir {a b : Loc} {name : String} (h : Plain node (a ++ name :: b)) :
    node a = some .dir ∧ Proper name ∧ ∃ nd, node (a ++ [name]) = some nd ∧ ¬ nd.IsLink := by
  rw [← List.singleton_append, ← List.append_assoc] at h
  exact h.of_append.last.2

theorem Plain.mono {node' : Loc → Option (Node C)}
    (hnode : ∀ l nd, node l = some nd → node' l = some nd) (h : Plain node loc) :
    Plain node' loc := by
  induction h with
  | root => exact .root
  | child _ hdir hname hnd hlink ih => exact .child ih (hnode _ _ hdir) hname (hnode _ _ hnd) hlink

/-- **A walk ends at a location without links.** -/
theorem Walks.plain (h : Walks node false links loc segs r) (hloc : Plain node loc) :
    Plain node r := by
  induction h with
  | done => exact hloc
  | here _ _ _ ih => exact ih hloc
  | up _ _ ih => exact ih hloc.dropLast
  | down hdir hseg hnd hlink _ ih => exact ih (.child hloc hdir hseg hnd hlink)
  | follow _ _ _ _ ih =>
    refine ih ?_
    split
    · exact .root
    · exact hloc
  | last hnew _ _ _ => exact absurd hnew Bool.false_ne_true

/-- **A walk along a location without links** ends there.  The path may have segments in it that
lead nowhere, as long as it does not end in one. -/
theorem Plain.walks {seg : String} (hseg : ¬ Here seg)
    (h : Plain node (loc ++ (segs ++ [seg]).filter fun x ↦ ¬ Here x)) :
    Walks node new links loc (segs ++ [seg]) (loc ++ (segs ++ [seg]).filter fun x ↦ ¬ Here x) := by
  induction segs generalizing loc with
  | nil =>
    have hfilter : [seg].filter (fun x ↦ ¬ Here x) = [seg] := by simp [hseg]
    rw [List.nil_append, hfilter] at h ⊢
    obtain ⟨-, hdir, hproper, nd, hnd, hlink⟩ := h.last
    exact .down hdir hproper hnd hlink .done
  | cons x segs ih =>
    rw [List.cons_append, List.filter_cons] at h ⊢
    by_cases hx : Here x
    · rw [if_neg (by simpa using hx)] at h ⊢
      refine .here ?_ hx (ih h)
      -- there is a name further down
      obtain ⟨name, rest, hrest⟩ := exists_filter_eq_cons segs hseg
      rw [hrest] at h
      exact h.dir.1
    · rw [if_pos (by simpa using hx)] at h ⊢
      obtain ⟨hdir, hproper, nd, hnd, hlink⟩ := h.dir
      have hloc := List.append_cons loc x ((segs ++ [seg]).filter fun x ↦ ¬ Here x)
      rw [hloc] at h ⊢
      exact .down hdir hproper hnd hlink (ih h)

/-- The same for a path that is the location. -/
theorem Plain.walks_self {b : Loc} (h : Plain node (loc ++ b)) :
    Walks node new links loc b (loc ++ b) := by
  induction b generalizing loc with
  | nil =>
    rw [List.append_nil]
    exact .done
  | cons x b ih =>
    obtain ⟨hdir, hproper, nd, hnd, hlink⟩ := h.dir
    have hloc := List.append_cons loc x b
    rw [hloc] at h ⊢
    exact .down hdir hproper hnd hlink (ih h)

/-- The names of a location without links lead down. -/
theorem Plain.proper (h : Plain node loc) : ∀ name ∈ loc, Proper name := by
  induction h with
  | root => exact List.forall_mem_nil _
  | child _ _ hname _ _ ih =>
    exact List.forall_mem_append.mpr ⟨ih, List.forall_mem_singleton.mpr hname⟩

/-- A walk along one name. -/
theorem Walks.name {seg : String} (h : Walks node new links loc [seg] r) (hseg : Proper seg)
    (hlink : ∀ target, node (loc ++ [seg]) ≠ some (.link target)) : r = loc ++ [seg] := by
  cases h with
  | here _ hhere _ => exact absurd hhere hseg.1
  | up _ _ => exact absurd rfl hseg.2
  | down _ _ _ _ hrest =>
    cases hrest
    rfl
  | follow _ _ hnd _ => exact absurd hnd (hlink _)
  | last _ _ _ _ => rfl

/-- A walk may have another segment at its end that leads nowhere. -/
theorem Walks.concat_here {seg : String} (h : Walks node false links loc segs r)
    (hr : node r = some .dir) (hseg : Here seg) :
    Walks node false links loc (segs ++ [seg]) r := by
  induction h with
  | done => exact .here hr hseg .done
  | here hdir hhere _ ih => exact .here hdir hhere (ih hr)
  | up hdir _ ih => exact .up hdir (ih hr)
  | down hdir hname hnd hlink _ ih => exact .down hdir hname hnd hlink (ih hr)
  | follow hdir hname hlink _ ih =>
    have hwalks := ih hr
    rw [List.append_assoc] at hwalks
    exact .follow hdir hname hlink hwalks
  | last hnew _ _ _ => exact absurd hnew Bool.false_ne_true

variable (node) in
/-- **No link leaves the place**: what a link there leads to, if to anything, is there, too. -/
def Keeps (root : Loc) : Prop :=
  ∀ loc target links r, root <+: loc → node loc = some (.link target) →
    Walks node false links (if target.absolute then [] else loc.dropLast) target.segs r →
      root <+: r

/-- **A walk that does not go up** ends where it begins or below, if no link leaves that. -/
theorem Walks.within {root : Loc} (hkeeps : Keeps node root)
    (h : Walks node false links loc segs r) (hloc : root <+: loc) (hup : ".." ∉ segs) :
    root <+: r := by
  -- on what is left of the path after a link, which is less than before it
  induction segs generalizing links loc with
  | nil =>
    cases h
    exact hloc
  | cons seg rest ih =>
    have hrest : ".." ∉ rest := fun hmem ↦ hup (List.mem_cons_of_mem seg hmem)
    have hbelow : root <+: loc ++ [seg] := hloc.trans (List.prefix_append loc [seg])
    cases h with
    | here _ _ hwalks => exact ih hwalks hloc hrest
    | up _ _ => exact absurd List.mem_cons_self hup
    | down _ _ _ _ hwalks => exact ih hwalks hbelow hrest
    | @follow links _ _ _ _ target _ _ hlink hwalks =>
      have hstart : loc = (loc ++ [seg]).dropLast := List.dropLast_concat.symm
      by_cases hnil : rest = []
      · rw [hnil, List.append_nil] at hwalks
        exact hkeeps _ target links r hbelow hlink (hstart ▸ hwalks)
      · obtain ⟨mid, left, hfirst, hsecond⟩ := hwalks.split hnil
        exact ih hsecond (hkeeps _ target links mid hbelow hlink (hstart ▸ hfirst)) hrest
    | last hnew _ _ _ => exact absurd hnew Bool.false_ne_true

end Walk

/-! ## File systems -/

/-- What is there stays where something new is put elsewhere. -/
theorem update_eq_some {C : Type u} {node : Loc → Option (Node C)} {loc l : Loc} {nd nd' : Node C}
    (h : node loc = none) (hnd : node l = some nd) :
    Function.update node loc (some nd') l = some nd := by
  have hne : l ≠ loc := by
    rintro rfl
    rw [h] at hnd
    cases hnd
  exact (Function.update_of_ne hne ..).trans hnd

/-- A file system, as a process finds it. -/
structure FileSystem (C : Type u) where
  /-- What is where. -/
  node : Loc → Option (Node C)
  /-- The working directory. -/
  cwd : Loc
  /-- How many links a walk may follow. -/
  maxLinks : ℕ
  /-- The system names the working directory without links. -/
  cwd_plain : Plain node cwd

namespace FileSystem

variable {C : Type u} (fs : FileSystem C) (p : Path)

/-- Where the walk along a path begins. -/
def start : Loc := if p.absolute then [] else fs.cwd

/-- The walk along a path; the empty text names nothing. -/
def find (new : Bool) : Option Loc :=
  if p = .empty then none else walk fs.node new fs.maxLinks (fs.start p) p.segs

/-- What the path names, links followed. -/
def resolve : Option Loc := fs.find p false

/-- Where a file is written that is opened by the path: it may be new, and is not a directory. -/
def openForWrite : Option Loc :=
  match fs.find p true with
  | none => none
  | some loc =>
    match fs.node loc with
    | some .dir => none
    | _ => some loc

/-- The directory entry that the path names: a link at the end is not followed. -/
def entry : Option Loc :=
  match p.segs.getLast? with
  | none => none
  | some seg =>
    if Proper seg then
      match walk fs.node false fs.maxLinks (fs.start p) p.segs.dropLast with
      | none => none
      | some loc =>
        match fs.node loc with
        | some .dir => some (loc ++ [seg])
        | _ => none
    else none

/-- `canonicalize`. -/
def canonicalize : Option Path := (fs.resolve p).map fun loc ↦ ⟨true, loc⟩

/-- `exists`. -/
def pathExists : Bool := (fs.resolve p).isSome

/-- `read_to_string`, as far as the file system goes: where the file is, and what it holds. -/
def readToString : Option (Loc × C) :=
  match fs.resolve p with
  | none => none
  | some loc =>
    match fs.node loc with
    | some (.file content) => some (loc, content)
    | _ => none

/-- A directory is made where there is nothing. -/
def mkdir (loc : Loc) (h : fs.node loc = none) : FileSystem C where
  node := Function.update fs.node loc (some .dir)
  cwd := fs.cwd
  maxLinks := fs.maxLinks
  cwd_plain := by
    exact fs.cwd_plain.mono fun l nd hnd ↦ update_eq_some h hnd

/-- `create_dir`, but for a directory that is there. -/
def createDir : Option (FileSystem C) :=
  match fs.resolve p with
  | some loc =>
    match fs.node loc with
    | some .dir => some fs
    | _ => none
  | none =>
    match fs.entry p with
    | none => none
    | some loc =>
      match h : fs.node loc with
      | none => some (fs.mkdir loc h)
      | some _ => none

/-- `create_dir_all`: one directory of the path after the other. -/
def createDirAll : Option (FileSystem C) :=
  p.segs.inits.tail.foldlM (fun fs segs ↦ fs.createDir ⟨p.absolute, segs⟩) fs

end FileSystem

/-- The second file system has what the first one has, and some directories. -/
structure Extends {C : Type u} (fs fs' : FileSystem C) : Prop where
  /-- What there was is there. -/
  node : ∀ loc nd, fs.node loc = some nd → fs'.node loc = some nd
  /-- What is new is a directory. -/
  dir : ∀ loc, fs.node loc = none → fs'.node loc = none ∨ fs'.node loc = some .dir
  /-- The working directory is the same. -/
  cwd : fs'.cwd = fs.cwd
  /-- As many links may be followed. -/
  maxLinks : fs'.maxLinks = fs.maxLinks

section Extends

variable {C : Type u} {fs fs' fs'' : FileSystem C} {p : Path} {loc : Loc}

theorem Extends.refl (fs : FileSystem C) : Extends fs fs :=
  ⟨fun _ _ h ↦ h, fun _ h ↦ Or.inl h, rfl, rfl⟩

theorem Extends.trans (h : Extends fs fs') (h' : Extends fs' fs'') : Extends fs fs'' where
  node loc nd hnd := h'.node loc nd (h.node loc nd hnd)
  dir loc hnone := by
    obtain hnone' | hdir := h.dir loc hnone
    · exact h'.dir loc hnone'
    · exact Or.inr (h'.node loc _ hdir)
  cwd := h'.cwd.trans h.cwd
  maxLinks := h'.maxLinks.trans h.maxLinks

/-- What is not a link stays so. -/
theorem Extends.not_link (h : Extends fs fs') {target : Path}
    (hlink : fs.node loc ≠ some (.link target)) : fs'.node loc ≠ some (.link target) := by
  cases hnd : fs.node loc with
  | some nd =>
    rw [h.node loc nd hnd]
    rwa [hnd] at hlink
  | none =>
    obtain hnone | hdir := h.dir loc hnd
    · rw [hnone]
      simp
    · rw [hdir]
      simp

/-- A path that names something names it still. -/
theorem Extends.resolve (h : Extends fs fs') (hloc : fs.resolve p = some loc) :
    fs'.resolve p = some loc := by
  unfold FileSystem.resolve FileSystem.find FileSystem.start at hloc ⊢
  split at hloc
  · cases hloc
  · rename_i hp
    rw [if_neg hp, h.cwd, h.maxLinks]
    exact walk_of_walks ((walks_of_walk hloc).mono h.node)

theorem extends_mkdir (h : fs.node loc = none) : Extends fs (fs.mkdir loc h) where
  node l nd hnd := update_eq_some h hnd
  dir l hnone := by
    by_cases hl : l = loc
    · exact Or.inr (hl ▸ Function.update_self ..)
    · exact Or.inl ((Function.update_of_ne hl ..).trans hnone)
  cwd := rfl
  maxLinks := rfl

theorem createDir_extends (h : fs.createDir p = some fs') : Extends fs fs' := by
  rw [FileSystem.createDir] at h
  split at h
  · split at h
    · exact Option.some.inj h ▸ .refl fs
    · cases h
  · split at h
    · cases h
    · split at h
      · exact Option.some.inj h ▸ extends_mkdir _
      · cases h

/-- **`create_dir_all` adds directories.** -/
theorem createDirAll_extends (h : fs.createDirAll p = some fs') : Extends fs fs' := by
  rw [FileSystem.createDirAll] at h
  generalize p.segs.inits.tail = dirs at h
  induction dirs generalizing fs with
  | nil => exact Option.some.inj h ▸ .refl fs
  | cons segs dirs ih =>
    obtain ⟨mid, hmid, hrest⟩ := Option.bind_eq_some_iff.mp h
    exact (createDir_extends hmid).trans (ih hrest)

end Extends

section Find

variable {C : Type u} {fs : FileSystem C} {p base : Path} {loc : Loc} {name : String}

theorem pathExists_iff : fs.pathExists p = true ↔ ∃ loc, fs.resolve p = some loc := by
  rw [FileSystem.pathExists, Option.isSome_iff_exists]

/-- The file that a path names is read. -/
theorem readToString_of_resolve {content : C} (hloc : fs.resolve p = some loc)
    (hfile : fs.node loc = some (.file content)) : fs.readToString p = some (loc, content) := by
  rw [FileSystem.readToString, hloc]
  dsimp only
  rw [hfile]

/-- What is read is what the path names. -/
theorem resolve_of_readToString {content : C} (h : fs.readToString p = some (loc, content)) :
    fs.resolve p = some loc := by
  rw [FileSystem.readToString] at h
  split at h
  · cases h
  · rename_i hloc
    split at h
    · rw [← (Prod.mk.inj (Option.some.inj h)).1]
      exact hloc
    · cases h

/-- What is written is where the walk ends that may end in something new. -/
theorem find_of_openForWrite (h : fs.openForWrite p = some loc) : fs.find p true = some loc := by
  rw [FileSystem.openForWrite] at h
  split at h
  · cases h
  · rename_i hloc
    split at h
    · cases h
    · rw [← Option.some.inj h]
      exact hloc

/-- A path is resolved to a location without links. -/
theorem plain_of_resolve (h : fs.resolve p = some loc) : Plain fs.node loc := by
  rw [FileSystem.resolve, FileSystem.find] at h
  split at h
  · cases h
  · refine (walks_of_walk h).plain ?_
    rw [FileSystem.start]
    split
    · exact .root
    · exact fs.cwd_plain

/-- **A canonical path** is resolved to its location. -/
theorem resolve_of_plain (h : Plain fs.node loc) : fs.resolve ⟨true, loc⟩ = some loc := by
  rw [FileSystem.resolve, FileSystem.find, if_neg (by simp [Path.empty])]
  exact walk_of_walks h.walks_self

/-- **A name in a directory** is found there, unless it is a link. -/
theorem find_join_name {new : Bool} (hbase : base ≠ .empty) (hname : Proper name)
    (h : fs.find (base.join ⟨false, [name]⟩) new = some loc) :
    ∃ dir, fs.resolve base = some dir ∧
      ((∀ target, fs.node (dir ++ [name]) ≠ some (.link target)) → loc = dir ++ [name]) := by
  rw [FileSystem.find] at h
  split at h
  · cases h
  · obtain ⟨dir, links, hdir, hlast⟩ := (walks_of_walk h).split (List.cons_ne_nil name [])
    refine ⟨dir, ?_, hlast.name hname⟩
    rw [FileSystem.resolve, FileSystem.find, if_neg hbase]
    exact walk_of_walks hdir

/-- **The entry of a name in a directory** is there. -/
theorem entry_join_name (hbase : base ≠ .empty)
    (h : fs.entry (base.join ⟨false, [name]⟩) = some loc) :
    ∃ dir, fs.resolve base = some dir ∧ loc = dir ++ [name] := by
  have hlast : (base.segs ++ [name]).getLast? = some name := List.getLast?_concat
  have hinit : (base.segs ++ [name]).dropLast = base.segs := List.dropLast_concat
  rw [FileSystem.entry, Path.join, if_neg Bool.false_ne_true] at h
  dsimp only at h
  rw [hlast, hinit] at h
  dsimp only at h
  split at h
  · split at h
    · cases h
    · rename_i dir hdir
      split at h
      · refine ⟨dir, ?_, (Option.some.inj h).symm⟩
        rw [FileSystem.resolve, FileSystem.find, if_neg hbase]
        exact hdir
      · cases h
  · cases h

/-- An entry has the last name of its path. -/
theorem last_of_entry {segs : List String} {seg : String} (hp : p.segs = segs ++ [seg])
    (h : fs.entry p = some loc) : loc.getLast? = some seg := by
  rw [FileSystem.entry, hp, List.getLast?_concat] at h
  dsimp only at h
  split at h
  · split at h
    · cases h
    · split at h
      · rw [← Option.some.inj h, List.getLast?_concat]
      · cases h
  · cases h

/-- A name that is found in a directory has an entry there. -/
theorem entry_of_find {new : Bool} (hbase : base ≠ .empty) (hname : Proper name)
    (h : fs.find (base.join ⟨false, [name]⟩) new = some loc) :
    ∃ dir, fs.resolve base = some dir ∧
      fs.entry (base.join ⟨false, [name]⟩) = some (dir ++ [name]) := by
  rw [FileSystem.find] at h
  split at h
  · cases h
  · obtain ⟨dir, links, hdir, hlast⟩ := (walks_of_walk h).split (List.cons_ne_nil name [])
    have hwalk : walk fs.node false fs.maxLinks (fs.start base) base.segs = some dir :=
      walk_of_walks hdir
    refine ⟨dir, ?_, ?_⟩
    · rw [FileSystem.resolve, FileSystem.find, if_neg hbase]
      exact hwalk
    · have hnode : fs.node dir = some .dir := by cases hlast <;> assumption
      have hlastName : (base.segs ++ [name]).getLast? = some name := List.getLast?_concat
      have hinit : (base.segs ++ [name]).dropLast = base.segs := List.dropLast_concat
      rw [FileSystem.entry, Path.join, if_neg Bool.false_ne_true]
      dsimp only
      rw [hlastName, hinit]
      dsimp only
      rw [if_pos hname]
      rw [FileSystem.start] at hwalk ⊢
      rw [hwalk]
      dsimp only
      rw [hnode]

/-- The components of a canonical path. -/
theorem components_of_plain (h : Plain fs.node loc) :
    Path.components ⟨true, loc⟩ = .root :: loc.map .name :=
  components_of_proper h.proper

/-- The components of a path that begins at the root are the beginning of a location, if it is
the beginning of the canonical path. -/
theorem prefix_of_startsWith (hloc : Plain fs.node loc) (hp : p.absolute = true)
    (h : Path.StartsWith ⟨true, loc⟩ p) : p.segs.filter (fun seg ↦ ¬ Here seg) <+: loc := by
  rw [Path.StartsWith, components_of_plain hloc, Path.components, hp, if_pos rfl,
    List.singleton_append, List.cons_prefix_cons] at h
  exact (List.prefix_map_iff_of_injective fun _ _ ↦ Component.name.inj).mp h.2

/-- **One canonical path begins with another** if and only if the one location does. -/
theorem startsWith_iff_of_plain {dir : Loc} (hloc : Plain fs.node loc) (hdir : Plain fs.node dir) :
    Path.StartsWith ⟨true, loc⟩ ⟨true, dir⟩ ↔ dir <+: loc := by
  rw [Path.StartsWith, components_of_plain hloc, components_of_plain hdir, List.cons_prefix_cons,
    and_iff_right rfl]
  exact List.prefix_map_iff_of_injective fun _ _ ↦ Component.name.inj

/-- **A path that a canonical path begins with** is resolved, and canonical itself. -/
theorem resolve_of_startsWith {segs : List String} {seg : String} (hp : p.segs = segs ++ [seg])
    (hseg : ¬ Here seg) (hloc : Plain fs.node loc) (h : Path.StartsWith ⟨true, loc⟩ p) :
    ∃ dir, fs.resolve p = some dir ∧ p.components = .root :: dir.map .name := by
  have habsolute : p.absolute = true := by
    by_contra hrelative
    obtain ⟨name, rest, hrest⟩ := exists_filter_eq_cons segs hseg
    rw [Path.StartsWith, components_of_plain hloc, Path.components, if_neg hrelative,
      List.nil_append, hp, hrest, List.map_cons, List.cons_prefix_cons] at h
    cases h.1
  obtain ⟨rest, hrest⟩ := prefix_of_startsWith hloc habsolute h
  rw [hp] at hrest
  have hplain : Plain fs.node ([] ++ (segs ++ [seg]).filter fun x ↦ ¬ Here x) :=
    (hrest ▸ hloc : Plain fs.node ((segs ++ [seg]).filter (fun x ↦ ¬ Here x) ++ rest)).of_append
  have hne : p ≠ .empty := by
    rintro rfl
    cases habsolute
  refine ⟨[] ++ (segs ++ [seg]).filter fun x ↦ ¬ Here x, ?_, ?_⟩
  · rw [FileSystem.resolve, FileSystem.find, if_neg hne, FileSystem.start, if_pos habsolute, hp]
    exact walk_of_walks (hplain.walks hseg)
  · rw [Path.components, if_pos habsolute, hp]
    rfl

end Find

end Posix
