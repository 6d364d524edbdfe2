import WorkWithMe.Server.FileApi

/-!
# The spellings of a path

`expand_path` of `server/files.rs` puts a path below the home directory.  A path may be spelled in
two ways, `p` and `~/p`, and there are two for the home directory itself, a tilde and nothing at
all; a path is refused if it begins at the root, or has two dots for a component.  The function
tries five tests of the text in turn, and each of them is off by something.

* `Refused` and `target` say what a text means, and `Right` that `expand_path` does that; `Agree`
  that the two spellings of a path mean the same to it.
* `expandPath_eq_ok_iff` says what `expand_path` accepts, in a home directory that no link leaves.
* **`right_iff_and_agree_iff`** says for which texts it is right, and for which paths the two
  spellings agree.
-/

set_option autoImplicit false

namespace WorkWithMe.Server.FileApi

open Posix

universe u

/-! ## What a text means -/

/-- The path begins at the root, or has two dots for a component. -/
def Refused (s : String) : Prop := "/".toList <+: s.toList ∨ ".." ∈ segments s.toList

instance (s : String) : Decidable (Refused s) := inferInstanceAs (Decidable (_ ∨ _))

/-- The path of the home directory, a slash, and the text. -/
def below (home : Path) (cs : List Char) : Path := ⟨home.absolute, home.segs ++ segments cs⟩

/-- The path that a text means. -/
def target (home : Path) (s : String) : Path :=
  if s = "" ∨ s = "~" then home
  else if "~/".toList <+: s.toList then below home (s.toList.drop 2)
  else below home s.toList

section Spelling

variable {C : Type u} (d : Disk C) (home : Path) (root : Loc) (s : String)

/-- The home directory is at the location, and no link leaves that. -/
structure Home : Prop where
  /-- The path is that of some text. -/
  text : ∃ t, home = .ofString t
  resolve : d.resolve home = some root
  dir : d.node root = some .dir
  keeps : Keeps d.node root

/-- **`expand_path` does what the text means.** -/
structure Right : Prop where
  /-- What is to be refused is. -/
  refused : Refused s → ∃ e, expandPath d (some home) s = .error e
  /-- What is not is resolved to the file that it names, if there is one. -/
  resolved : ¬ Refused s → ∀ loc, d.resolve (target home s) = some loc →
    expandPath d (some home) s = .ok ⟨true, loc⟩

/-- **The two spellings of a path** mean the same file, or are both refused. -/
def Agree : Prop :=
  (∃ p, expandPath d (some home) ("~/" ++ s) = .ok p ∧ expandPath d (some home) s = .ok p) ∨
    (∃ e, expandPath d (some home) ("~/" ++ s) = .error e) ∧
      ∃ e, expandPath d (some home) s = .error e

/-- The path names what is at the location, which is in the home directory. -/
def Names (p : Path) (loc : Loc) : Prop := d.resolve p = some loc ∧ root <+: loc

/-- **The texts of which `expand_path` makes what they mean.** -/
def Clear : Prop :=
  if "/".toList <+: s.toList then True
  else if "~/".toList <+: s.toList then
    -- behind a tilde and a slash, two dots have to lead out of the home directory
    (".." ∈ segments (s.toList.drop 2) →
      ∀ loc, ¬ Names d root (home.join (.ofChars (s.toList.drop 2))) loc) ∧
    -- and where another slash follows, the root has to have the same file
    (".." ∉ segments (s.toList.drop 2) → "/".toList <+: s.toList.drop 2 →
      ∀ loc, d.resolve (below home (s.toList.drop 2)) = some loc →
        d.resolve (.ofChars (s.toList.drop 2)) = some loc)
  else if "~".toList <+: s.toList ∧ '/' ∉ s.toList then
    -- a name that begins with a tilde has to name the home directory
    s = "~" ∨ ∀ loc, d.resolve (below home s.toList) = some loc → loc = root
  else
    -- two dots have to be a component
    "..".toList <:+: s.toList → ".." ∉ segments s.toList → d.resolve (below home s.toList) = none

/-- **The paths whose two spellings mean the same.** -/
def Uniform : Prop :=
  if "/".toList <+: s.toList then ∀ loc, ¬ Names d root (.ofString s) loc
  else if "~/".toList <+: s.toList then
    ∀ loc, Names d root (below home s.toList) loc ↔
      Names d root (home.join (.ofChars (s.toList.drop 2))) loc
  else if "~".toList <+: s.toList ∧ '/' ∉ s.toList then
    d.resolve (below home s.toList) = some root
  else "..".toList <:+: s.toList → ∀ loc, ¬ Names d root (below home s.toList) loc

end Spelling

/-! ## Texts -/

section Texts

variable {home : Path} {s : String} {cs : List Char}

theorem join_ofChars (home : Path) (h : ¬ "/".toList <+: cs) :
    home.join (.ofChars cs) = below home cs := by
  rw [Path.ofChars.eq_def]
  split
  · exact absurd (List.prefix_append ..) h
  · rfl

theorem join_ofChars_of_slash (home : Path) (h : "/".toList <+: cs) :
    home.join (.ofChars cs) = .ofChars cs := by
  obtain ⟨ds, rfl⟩ := h
  rfl

/-- The components behind a tilde. -/
theorem mem_segments_tilde (cs : List Char) :
    ".." ∈ segments ("~/".toList ++ cs) ↔ ".." ∈ segments cs := by
  have hsegments : segments ("~/".toList ++ cs) = segments ['~'] ++ segments cs :=
    segments_append_slash ['~'] cs
  rw [hsegments, List.mem_append]
  exact or_iff_right (by decide)

end Texts

/-! ## What is accepted -/

section Accepted

variable {C : Type u} {d : Disk C} {home : Path} {root loc : Loc} {s : String} {cs : List Char}
  {p q : Path}

theorem canonicalOr_of_resolve {failed : String} (h : d.resolve p = some loc) :
    canonicalOr d failed p = .ok ⟨true, loc⟩ := by
  rw [canonicalOr, FileSystem.canonicalize, h]
  rfl

/-- **What `expand_path` accepts**: what is put below the home directory, and names something in
it. -/
theorem expandPath_eq_ok_iff (h : Home d home root) :
    expandPath d (some home) s = .ok q ↔
      ∃ p loc, joinHome home s = .ok p ∧ Names d root p loc ∧ q = ⟨true, loc⟩ := by
  dsimp only [expandPath, bind, Except.bind]
  constructor
  · intro hok
    split at hok
    · cases hok
    rename_i p hjoin
    split at hok
    · cases hok
    rename_i hcanonical
    obtain ⟨loc, hloc, rfl⟩ := canonicalOr_eq_ok hcanonical
    rw [canonicalOr_of_resolve h.resolve] at hok
    dsimp only at hok
    split at hok
    · rename_i hstarts
      exact ⟨p, loc, hjoin, ⟨hloc, (startsWith_iff_of_plain (plain_of_resolve hloc)
        (plain_of_resolve h.resolve)).mp hstarts⟩, (Except.ok.inj hok).symm⟩
    · cases hok
  · rintro ⟨p, loc, hjoin, ⟨hloc, hbelow⟩, rfl⟩
    have hstarts : Path.StartsWith ⟨true, loc⟩ ⟨true, root⟩ :=
      (startsWith_iff_of_plain (plain_of_resolve hloc) (plain_of_resolve h.resolve)).mpr hbelow
    rw [hjoin]
    dsimp only
    rw [canonicalOr_of_resolve hloc, canonicalOr_of_resolve h.resolve]
    exact if_pos hstarts

/-- What it refuses. -/
theorem exists_expandPath_eq_error_iff (h : Home d home root) :
    (∃ e, expandPath d (some home) s = .error e) ↔
      ∀ p loc, joinHome home s = .ok p → ¬ Names d root p loc := by
  constructor
  · rintro ⟨e, herror⟩ p loc hjoin hnames
    have hok := (expandPath_eq_ok_iff h).mpr ⟨p, loc, hjoin, hnames, rfl⟩
    rw [herror] at hok
    cases hok
  · intro hnone
    cases hexpand : expandPath d (some home) s with
    | error e => exact ⟨e, rfl⟩
    | ok q =>
      obtain ⟨p, loc, hjoin, hnames, -⟩ := (expandPath_eq_ok_iff h).mp hexpand
      exact absurd hnames (hnone p loc hjoin)

/-- The walk to what is below the home directory comes by it. -/
theorem exists_walks_of_below (h : Home d home root) (hloc : d.resolve (below home cs) = some loc) :
    ∃ links, Walks d.node false links root (segments cs) loc := by
  have hroot := h.resolve
  rw [FileSystem.resolve, FileSystem.find] at hloc hroot
  split at hloc
  · cases hloc
  split at hroot
  · cases hroot
  have hne : segments cs ≠ [] := by
    rw [segments, Ne, List.map_eq_nil_iff]
    exact List.splitOn_ne_nil '/' cs
  obtain ⟨mid, links, hfirst, hsecond⟩ := (walks_of_walk hloc).split hne
  obtain rfl := Option.some.inj (hroot.symm.trans (walk_of_walks hfirst))
  exact ⟨links, hsecond⟩

/-- **What is below the home directory** stays there, unless it goes up. -/
theorem names_below (h : Home d home root) (hup : ".." ∉ segments cs) :
    Names d root (below home cs) loc ↔ d.resolve (below home cs) = some loc := by
  refine and_iff_left_of_imp fun hloc ↦ ?_
  obtain ⟨links, hwalks⟩ := exists_walks_of_below h hloc
  exact hwalks.within h.keeps List.prefix_rfl hup

/-- Nothing below the home directory is the home directory. -/
theorem resolve_below_nil (h : Home d home root) : d.resolve (below home []) = some root := by
  obtain ⟨t, ht⟩ := h.text
  obtain ⟨segs, seg, hsegs, -⟩ := exists_last_ofString t
  have hne : below home [] ≠ .empty := by
    intro hempty
    have hlength := congrArg (fun p : Path ↦ p.segs.length) hempty
    simp [below, ht, hsegs, segments, Path.empty] at hlength
  have hroot := h.resolve
  rw [FileSystem.resolve, FileSystem.find] at hroot ⊢
  split at hroot
  · cases hroot
  rw [if_neg hne]
  exact walk_of_walks ((walks_of_walk hroot).concat_here h.dir (.inl rfl))

theorem names_home (h : Home d home root) : Names d root home loc ↔ loc = root := by
  rw [Names, h.resolve, Option.some_inj]
  constructor
  · exact fun hnames ↦ hnames.1.symm
  · rintro rfl
    exact ⟨rfl, List.prefix_rfl⟩

end Accepted

/-! ## The five tests -/

section Tests

variable {C : Type u} {d : Disk C} {home : Path} {root loc : Loc} {s : String} {cs : List Char}

theorem joinHome_of_slash (home : Path) (h : "/".toList <+: s.toList) :
    joinHome home s = .error "Absolute paths are not allowed" := if_pos h

theorem joinHome_of_tilde_slash (home : Path) (h : s.toList = "~/".toList ++ cs) :
    joinHome home s = .ok (home.join (.ofChars cs)) := by
  have hslash : ¬ "/".toList <+: s.toList := by
    rw [h]
    exact fun hbegins ↦ absurd (List.cons_prefix_cons.mp hbegins).1 (by decide)
  have hdrop : s.toList.drop 2 = cs := by rw [h]; rfl
  rw [joinHome, if_neg hslash, if_pos ⟨cs, h.symm⟩, hdrop]

theorem joinHome_of_tilde (home : Path) (h : "~".toList <+: s.toList ∧ '/' ∉ s.toList) :
    joinHome home s = .ok home := by
  have hslash : ¬ "/".toList <+: s.toList := fun hbegins ↦
    h.2 (hbegins.subset List.mem_cons_self)
  have htilde : ¬ "~/".toList <+: s.toList := fun hbegins ↦
    h.2 (hbegins.subset (List.mem_cons_of_mem _ List.mem_cons_self))
  rw [joinHome, if_neg hslash, if_neg htilde, if_pos h]

theorem joinHome_empty (home : Path) : joinHome home "" = .ok home := rfl

theorem joinHome_of_dots (home : Path) (hslash : ¬ "/".toList <+: s.toList)
    (htilde : ¬ "~/".toList <+: s.toList)
    (hname : ¬ ("~".toList <+: s.toList ∧ '/' ∉ s.toList)) (hdots : "..".toList <:+: s.toList) :
    joinHome home s = .error "Path traversal (..) is not allowed" := by
  have hempty : s ≠ "" := by
    rintro rfl
    exact absurd (List.infix_nil.mp hdots) (List.cons_ne_nil _ _)
  rw [joinHome, if_neg hslash, if_neg htilde, if_neg hname, if_neg hempty, if_pos hdots]

theorem joinHome_of_not_dots (home : Path) (hslash : ¬ "/".toList <+: s.toList)
    (htilde : ¬ "~/".toList <+: s.toList)
    (hname : ¬ ("~".toList <+: s.toList ∧ '/' ∉ s.toList)) (hempty : s ≠ "")
    (hdots : ¬ "..".toList <:+: s.toList) : joinHome home s = .ok (below home s.toList) := by
  rw [joinHome, if_neg hslash, if_neg htilde, if_neg hname, if_neg hempty, if_neg hdots,
    Path.ofString, join_ofChars home hslash]

end Tests

/-! ## For which texts it is right -/

section Right

variable {C : Type u} {d : Disk C} {home p : Path} {root loc : Loc} {s : String} {cs : List Char}

/-- A text that is put below the home directory as some path. -/
theorem right_iff_of_ok (h : Home d home root) (hjoin : joinHome home s = .ok p) :
    Right d home s ↔ (Refused s → ∀ loc, ¬ Names d root p loc) ∧
      (¬ Refused s → ∀ loc, d.resolve (target home s) = some loc → Names d root p loc) := by
  have herror : (∃ e, expandPath d (some home) s = .error e) ↔ ∀ loc, ¬ Names d root p loc := by
    rw [exists_expandPath_eq_error_iff h, hjoin]
    exact ⟨fun hnone loc ↦ hnone p loc rfl, fun hnone q loc hq ↦ Except.ok.inj hq ▸ hnone loc⟩
  have hok : ∀ loc, expandPath d (some home) s = .ok ⟨true, loc⟩ ↔ Names d root p loc := by
    intro loc
    rw [expandPath_eq_ok_iff h, hjoin]
    constructor
    · rintro ⟨q, l, hq, hnames, hl⟩
      cases hq
      cases hl
      exact hnames
    · exact fun hnames ↦ ⟨p, loc, rfl, hnames, rfl⟩
  constructor
  · exact fun hright ↦ ⟨fun hr ↦ herror.mp (hright.refused hr),
      fun hr loc hloc ↦ (hok loc).mp (hright.resolved hr loc hloc)⟩
  · exact fun ⟨hrefused, hresolved⟩ ↦ ⟨fun hr ↦ herror.mpr (hrefused hr),
      fun hr loc hloc ↦ (hok loc).mpr (hresolved hr loc hloc)⟩

/-- A text that is refused whatever there is. -/
theorem right_iff_of_error (h : Home d home root) {e : String}
    (hjoin : joinHome home s = .error e) :
    Right d home s ↔ (¬ Refused s → d.resolve (target home s) = none) := by
  have herror : ∃ e, expandPath d (some home) s = .error e := by
    rw [exists_expandPath_eq_error_iff h, hjoin]
    exact fun p loc hp ↦ by cases hp
  constructor
  · intro hright hr
    by_contra hsome
    obtain ⟨loc, hloc⟩ := Option.ne_none_iff_exists'.mp hsome
    obtain ⟨e, he⟩ := herror
    cases he.symm.trans (hright.resolved hr loc hloc)
  · intro hnone
    refine ⟨fun _ ↦ herror, fun hr loc hloc ↦ ?_⟩
    cases (hnone hr).symm.trans hloc

/-- A text behind a tilde and a slash. -/
theorem right_iff_of_tilde_slash (h : Home d home root) (hs : s.toList = "~/".toList ++ cs) :
    Right d home s ↔ (".." ∈ segments cs → ∀ loc, ¬ Names d root (home.join (.ofChars cs)) loc) ∧
      (".." ∉ segments cs → "/".toList <+: cs → ∀ loc, d.resolve (below home cs) = some loc →
        d.resolve (.ofChars cs) = some loc) := by
  have hrefused : Refused s ↔ ".." ∈ segments cs := by
    rw [Refused, hs, mem_segments_tilde]
    exact or_iff_right fun hbegins ↦ absurd (List.cons_prefix_cons.mp hbegins).1 (by decide)
  have htarget : target home s = below home cs := by
    have hne : ¬ (s = "" ∨ s = "~") := by
      rintro (rfl | rfl)
      · cases hs
      · cases hs
    have hdrop : s.toList.drop 2 = cs := by rw [hs]; rfl
    rw [target, if_neg hne, if_pos ⟨cs, hs.symm⟩, hdrop]
  rw [right_iff_of_ok h (joinHome_of_tilde_slash home hs), hrefused, htarget]
  refine and_congr_right fun _ ↦ forall_congr' fun hup ↦ ?_
  by_cases hslash : "/".toList <+: cs
  · rw [join_ofChars_of_slash home hslash]
    constructor
    · exact fun hnames _ loc hloc ↦ (hnames loc hloc).1
    · exact fun hsame loc hloc ↦ ⟨hsame hslash loc hloc, ((names_below h hup).mpr hloc).2⟩
  · rw [join_ofChars home hslash]
    exact iff_of_true (fun loc hloc ↦ (names_below h hup).mpr hloc) fun hbegins ↦
      absurd hbegins hslash

/-- A name that begins with a tilde. -/
theorem right_iff_of_tilde (h : Home d home root)
    (hs : "~".toList <+: s.toList ∧ '/' ∉ s.toList) :
    Right d home s ↔ s = "~" ∨ ∀ loc, d.resolve (below home s.toList) = some loc → loc = root := by
  have hsegments : segments s.toList = [s] := by
    rw [segments, List.splitOn_eq_singleton hs.2, List.map_singleton, String.ofList_toList]
  have hrefused : ¬ Refused s := by
    rintro (hbegins | hmem)
    · exact hs.2 (hbegins.subset List.mem_cons_self)
    · rw [hsegments, List.mem_singleton] at hmem
      rw [← hmem] at hs
      exact absurd hs.1 (by decide)
  rw [right_iff_of_ok h (joinHome_of_tilde home hs)]
  simp only [hrefused, false_imp_iff, true_and, not_false_eq_true, true_imp_iff, names_home h]
  by_cases htilde : s = "~"
  · have htarget : target home s = home := if_pos (.inr htilde)
    rw [htarget]
    refine iff_of_true (fun loc hloc ↦ ?_) (.inl htilde)
    exact (Option.some.inj (h.resolve.symm.trans hloc)).symm
  · have hne : ¬ (s = "" ∨ s = "~") := by
      rintro (rfl | htilde')
      · exact absurd hs.1 (by decide)
      · exact htilde htilde'
    have hslash : ¬ "~/".toList <+: s.toList := fun hbegins ↦
      hs.2 (hbegins.subset (List.mem_cons_of_mem _ List.mem_cons_self))
    have htarget : target home s = below home s.toList := by
      rw [target, if_neg hne, if_neg hslash]
    rw [htarget]
    exact (or_iff_right htilde).symm

/-- **For which texts `expand_path` is right.** -/
theorem right_iff_clear (h : Home d home root) : Right d home s ↔ Clear d home root s := by
  rw [Clear]
  split
  · rename_i hslash
    rw [right_iff_of_error h (joinHome_of_slash home hslash)]
    exact iff_of_true (fun hr ↦ absurd (.inl hslash) hr) trivial
  rename_i hslash
  split
  · rename_i htilde
    obtain ⟨cs, hcs⟩ := htilde
    have hdrop : s.toList.drop 2 = cs := by rw [← hcs]; rfl
    rw [hdrop]
    exact right_iff_of_tilde_slash h hcs.symm
  rename_i htilde
  split
  · exact right_iff_of_tilde h ‹_›
  rename_i hname
  have hrefused : Refused s ↔ ".." ∈ segments s.toList := or_iff_right hslash
  by_cases hempty : s = ""
  · subst hempty
    refine iff_of_true ?_ fun hdots ↦ absurd (List.infix_nil.mp hdots) (List.cons_ne_nil _ _)
    rw [right_iff_of_ok h (joinHome_empty home)]
    refine ⟨fun hr ↦ absurd hr (by decide), fun _ loc hloc ↦ (names_home h).mpr ?_⟩
    exact (Option.some.inj (h.resolve.symm.trans hloc)).symm
  have htarget : target home s = below home s.toList := by
    have hne : ¬ (s = "" ∨ s = "~") := by
      rintro (hs | rfl)
      · exact hempty hs
      · exact hname (by decide)
    rw [target, if_neg hne, if_neg htilde]
  by_cases hdots : "..".toList <:+: s.toList
  · rw [right_iff_of_error h (joinHome_of_dots home hslash htilde hname hdots), hrefused, htarget]
    exact ⟨fun hnone _ ↦ hnone, fun hnone ↦ hnone hdots⟩
  · have hup : ".." ∉ segments s.toList := fun hmem ↦ hdots (infix_of_mem_segments hmem)
    refine iff_of_true ?_ fun hdots' ↦ absurd hdots' hdots
    rw [right_iff_of_ok h (joinHome_of_not_dots home hslash htilde hname hempty hdots), hrefused,
      htarget]
    exact ⟨fun hmem ↦ absurd hmem hup, fun _ loc hloc ↦ (names_below h hup).mpr hloc⟩

end Right

/-! ## For which paths the two spellings agree -/

section Agree

variable {C : Type u} {d : Disk C} {home : Path} {root : Loc} {s : String}

theorem tilde_slash_toList (s : String) : ("~/" ++ s).toList = "~/".toList ++ s.toList :=
  String.toList_append

/-- The two spellings agree if the same files are named. -/
theorem agree_iff_names (h : Home d home root) :
    Agree d home s ↔ ∀ loc, Names d root (home.join (.ofString s)) loc ↔
      ∃ p, joinHome home s = .ok p ∧ Names d root p loc := by
  have hjoin := joinHome_of_tilde_slash home (tilde_slash_toList s)
  have htilde : ∀ q, expandPath d (some home) ("~/" ++ s) = .ok q ↔
      ∃ loc, Names d root (home.join (.ofString s)) loc ∧ q = ⟨true, loc⟩ := by
    intro q
    rw [expandPath_eq_ok_iff h, hjoin]
    constructor
    · rintro ⟨p, loc, hp, hnames, rfl⟩
      cases hp
      exact ⟨loc, hnames, rfl⟩
    · rintro ⟨loc, hnames, rfl⟩
      exact ⟨_, loc, rfl, hnames, rfl⟩
  constructor
  · rintro (⟨q, htilde', hplain⟩ | ⟨htilde', hplain⟩) loc
    · obtain ⟨l, hl, rfl⟩ := (htilde q).mp htilde'
      obtain ⟨p, l', hp, hl', hq⟩ := (expandPath_eq_ok_iff h).mp hplain
      cases hq
      constructor
      · intro hloc
        obtain rfl := Option.some.inj (hl.1.symm.trans hloc.1)
        exact ⟨p, hp, hl'⟩
      · rintro ⟨p', hp', hloc⟩
        cases hp.symm.trans hp'
        obtain rfl := Option.some.inj (hl'.1.symm.trans hloc.1)
        exact hl
    · refine iff_of_false ?_ ?_
      · exact (exists_expandPath_eq_error_iff h).mp htilde' _ loc hjoin
      · rintro ⟨p, hp, hloc⟩
        exact (exists_expandPath_eq_error_iff h).mp hplain p loc hp hloc
  · intro hsame
    by_cases hsome : ∃ loc, Names d root (home.join (.ofString s)) loc
    · obtain ⟨loc, hloc⟩ := hsome
      obtain ⟨p, hp, hnames⟩ := (hsame loc).mp hloc
      exact .inl ⟨_, (htilde _).mpr ⟨loc, hloc, rfl⟩,
        (expandPath_eq_ok_iff h).mpr ⟨p, loc, hp, hnames, rfl⟩⟩
    · refine .inr ⟨(exists_expandPath_eq_error_iff h).mpr fun p loc hp hloc ↦ ?_,
        (exists_expandPath_eq_error_iff h).mpr fun p loc hp hloc ↦ ?_⟩
      · cases hjoin.symm.trans hp
        exact hsome ⟨loc, hloc⟩
      · exact hsome ⟨loc, (hsame loc).mpr ⟨p, hp, hloc⟩⟩

/-- **For which paths the two spellings agree.** -/
theorem agree_iff_uniform (h : Home d home root) : Agree d home s ↔ Uniform d home root s := by
  rw [agree_iff_names h, Uniform]
  split
  · rename_i hslash
    rw [joinHome_of_slash home hslash, Path.ofString, join_ofChars_of_slash home hslash]
    refine forall_congr' fun loc ↦ iff_false_right ?_
    rintro ⟨p, hp, -⟩
    cases hp
  rename_i hslash
  have hbelow : home.join (.ofString s) = below home s.toList := join_ofChars home hslash
  rw [hbelow]
  split
  · rename_i htilde
    obtain ⟨cs, hcs⟩ := htilde
    have hdrop : s.toList.drop 2 = cs := by rw [← hcs]; rfl
    rw [joinHome_of_tilde_slash home hcs.symm, hdrop]
    exact forall_congr' fun loc ↦ iff_congr Iff.rfl (by simp)
  rename_i htilde
  split
  · rename_i hname
    rw [joinHome_of_tilde home hname]
    simp only [Except.ok.injEq, exists_eq_left', names_home h]
    constructor
    · exact fun hsame ↦ ((hsame root).mpr rfl).1
    · intro hroot loc
      constructor
      · exact fun hnames ↦ Option.some.inj (hnames.1.symm.trans hroot)
      · rintro rfl
        exact ⟨hroot, List.prefix_rfl⟩
  rename_i hname
  by_cases hempty : s = ""
  · subst hempty
    refine iff_of_true (fun loc ↦ ?_) fun hdots ↦
      absurd (List.infix_nil.mp hdots) (List.cons_ne_nil _ _)
    rw [joinHome_empty]
    simp only [Except.ok.injEq, exists_eq_left', names_home h]
    rw [Names, String.toList_empty, resolve_below_nil h, Option.some_inj]
    constructor
    · exact fun hnames ↦ hnames.1.symm
    · rintro rfl
      exact ⟨rfl, List.prefix_rfl⟩
  by_cases hdots : "..".toList <:+: s.toList
  · rw [joinHome_of_dots home hslash htilde hname hdots, forall_prop_of_true hdots]
    refine forall_congr' fun loc ↦ iff_false_right ?_
    rintro ⟨p, hp, -⟩
    cases hp
  · rw [joinHome_of_not_dots home hslash htilde hname hempty hdots]
    exact iff_of_true (fun loc ↦ by simp) fun hdots' ↦ absurd hdots' hdots

/-- **Path resolution.** -/
theorem right_iff_and_agree_iff (h : Home d home root) (s : String) :
    (Right d home s ↔ Clear d home root s) ∧ (Agree d home s ↔ Uniform d home root s) :=
  ⟨right_iff_clear h, agree_iff_uniform h⟩

end Agree

/-- A home directory with one file in it, whose name begins with a tilde. -/
def exampleTilde : Disk Unit where
  node loc := if loc = [] ∨ loc = ["h"] then some .dir
    else if loc = ["h", "~notes"] then some (.file ()) else none
  cwd := []
  maxLinks := 40
  cwd_plain := .root
  names _ := none
  metadata _ := ⟨4096, none⟩
  failure _ := "No such file or directory (os error 2)"
  proper_of_mem _ _ h := by cases h
  slash_notMem_of_mem _ _ h := by cases h
  slash_notMem loc name nd h := by
    have hlast : (loc ++ [name]).getLast? = some name := List.getLast?_concat
    split at h
    · rename_i hloc
      obtain hnil | hloc := hloc
      · exact absurd hnil (List.append_ne_nil_of_right_ne_nil _ (List.cons_ne_nil _ _))
      · rw [hloc] at hlast
        cases hlast
        decide
    · split at h
      · rename_i hloc
        rw [hloc] at hlast
        cases hlast
        decide
      · cases h

theorem home_exampleTilde : Home exampleTilde ⟨true, ["h"]⟩ ["h"] where
  text := ⟨"/h", by decide⟩
  resolve := by decide
  dir := rfl
  keeps loc target links r _ hlink _ := by
    dsimp only [exampleTilde] at hlink
    split at hlink
    · cases hlink
    · split at hlink
      · cases hlink
      · cases hlink

theorem right_iff_and_agree_iff_example :
    (Right exampleTilde ⟨true, ["h"]⟩ "~/~notes" ↔
        Clear exampleTilde ⟨true, ["h"]⟩ ["h"] "~/~notes") ∧
      (Agree exampleTilde ⟨true, ["h"]⟩ "~/~notes" ↔
        Uniform exampleTilde ⟨true, ["h"]⟩ ["h"] "~/~notes") :=
  right_iff_and_agree_iff home_exampleTilde "~/~notes"

/-- **A name that begins with a tilde** is taken for the home directory; behind `~/` it is not. -/
theorem not_right_and_not_agree :
    Home exampleTilde ⟨true, ["h"]⟩ ["h"] ∧ ¬ Right exampleTilde ⟨true, ["h"]⟩ "~notes" ∧
      ¬ Agree exampleTilde ⟨true, ["h"]⟩ "~notes" := by
  have hplain : expandPath exampleTilde (some ⟨true, ["h"]⟩) "~notes" = .ok ⟨true, ["h"]⟩ := by
    decide
  have htilde : expandPath exampleTilde (some ⟨true, ["h"]⟩) ("~/" ++ "~notes") =
      .ok ⟨true, ["h", "~notes"]⟩ := by decide
  refine ⟨home_exampleTilde, ?_, ?_⟩
  · intro h
    have hfile := h.resolved (by decide) ["h", "~notes"] (by decide)
    rw [hplain] at hfile
    exact absurd (congrArg Path.segs (Except.ok.inj hfile)) (by decide)
  · rintro (⟨p, hp, hq⟩ | ⟨⟨e, he⟩, -⟩)
    · rw [htilde] at hp
      rw [hplain] at hq
      exact absurd (congrArg Path.segs ((Except.ok.inj hq).trans (Except.ok.inj hp).symm))
        (by decide)
    · rw [htilde] at he
      cases he

end WorkWithMe.Server.FileApi
