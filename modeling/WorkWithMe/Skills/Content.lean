import WorkWithMe.Lib.Posix

/-!
# The content of a skill

`get_skill_content` of `server/skills.rs` has two sources of skills.  One is a list in the program;
the other is a directory, in which the name of a skill leads to a file.  The name comes from a
request, and may be any text.

* `Confined` says that the file that is read, if any, is in the directory and has the name of the
  skill.
* `confined_iff` says for which requests that is so.
* `not_confined` is a name that leads elsewhere.
-/

set_option autoImplicit false

namespace WorkWithMe.Skills

open Posix

/-! ## The skills -/

/-- A skill. -/
structure SkillEntry where
  /-- The source and the name. -/
  id : String
  /-- The name. -/
  name : String
  /-- What it is for. -/
  description : String
  /-- The heading it is listed under. -/
  category : String
  /-- `example` or `user`. -/
  source : String
  /-- The file. -/
  path : String
  deriving DecidableEq

/-- `builtin_examples`. -/
def builtinExamples : List SkillEntry :=
  [⟨"example/code-review", "code-review",
      "Review code for bugs, style issues, and improvements. " ++
      "Use when the user asks to review, check, or critique code.", "Engineering", "example", ""⟩,
    ⟨"example/debug-error", "debug-error",
      "Systematically diagnose and fix errors or unexpected behavior. " ++
      "Use when the user reports a bug, error message, or unexpected output.",
      "Engineering", "example", ""⟩]

/-- `user_skills_dir`, for the variable `HOME`. -/
def userSkillsDir (home : Option String) : Path :=
  (Path.ofString (home.getD "~")).join (.ofString ".config/workwithme/skills")

/-- The path that the name of a skill leads to. -/
def skillPath (home : Option String) (slug : String) : Path :=
  (userSkillsDir home).join (.ofString (slug ++ ".md"))

/-- The content of a skill that is in the program. -/
def SkillEntry.content (e : SkillEntry) : String :=
  "---\nname: " ++ e.name ++ "\ndescription: " ++ e.description ++ "\n---\n\n" ++ e.description

section Content

variable (home : Option String) (fs : FileSystem (Option String)) (source slug : String)

/-- `get_skill_content`, and the path of the file that is read.  A file holds a text, unless it is
not UTF-8. -/
def getSkillContent : Option String × Option Path :=
  if source = "example" then
    ((builtinExamples.find? fun e ↦ e.id = "example/" ++ slug).map SkillEntry.content, none)
  else if source = "user" then
    match fs.readToString (skillPath home slug) with
    | none => (none, none)
    | some (_, text) => (text, some (skillPath home slug))
  else (none, none)

/-- **The file that is read is in the directory of the skills**, under the name of the skill. -/
def Confined : Prop :=
  ∀ path, (getSkillContent home fs source slug).2 = some path →
    ∃ dir, fs.resolve (userSkillsDir home) = some dir ∧
      fs.entry path = some (dir ++ [slug ++ ".md"])

/-! ## Which requests are confined -/

variable {home fs source slug}

theorem userSkillsDir_ne_empty : userSkillsDir home ≠ .empty := by
  intro h
  have hlast := congrArg (fun p ↦ p.segs.getLast?) h
  have hsegs : (userSkillsDir home).segs =
      ((Path.ofString (home.getD "~")).segs ++ [".config", "workwithme"]) ++ ["skills"] := by
    rw [List.append_assoc]
    rfl
  rw [hsegs, List.getLast?_concat] at hlast
  exact absurd hlast (by decide)

/-- **A request is confined** if and only if it is not for a skill of the user, or its name has no
slash in it, or the path that it leads to is not that of a file. -/
theorem confined_iff (home : Option String) (fs : FileSystem (Option String))
    (source slug : String) :
    Confined home fs source slug ↔
      (source = "user" → '/' ∈ slug.toList → fs.readToString (skillPath home slug) = none) := by
  by_cases hsource : source = "user"
  · subst hsource
    rw [Confined, getSkillContent, if_neg (by decide), if_pos rfl]
    cases hread : fs.readToString (skillPath home slug) with
    | none => simp
    | some found =>
      obtain ⟨loc, text⟩ := found
      simp only [Option.some_inj, forall_eq', true_implies, reduceCtorEq, imp_false]
      have hmd : '/' ∈ (slug ++ ".md").toList ↔ '/' ∈ slug.toList := by
        rw [String.toList_append, List.mem_append, or_iff_left (by decide)]
      rw [← hmd]
      constructor
      · rintro ⟨dir, -, hentry⟩
        -- the last name of a path has no slash in it
        obtain ⟨_, seg, hsegs, hseg⟩ := exists_last_ofString (slug ++ ".md")
        obtain ⟨segs, hsegs⟩ := (exists_join_segs hsegs :
          ∃ segs, ((userSkillsDir home).join (.ofString (slug ++ ".md"))).segs = segs ++ [seg])
        have hlast := last_of_entry hsegs hentry
        rw [List.getLast?_concat] at hlast
        rwa [Option.some.inj hlast]
      · intro hslash
        rw [skillPath, ofString_of_slash_notMem hslash] at hread ⊢
        exact entry_of_find userSkillsDir_ne_empty (proper_append slug (by decide))
          (resolve_of_readToString hread)
  · refine iff_of_true ?_ fun h ↦ absurd h hsource
    intro path hpath
    rw [getSkillContent, if_neg hsource] at hpath
    split at hpath <;> cases hpath

/-- A disk with a file in the home directory, beside the directory of the skills. -/
def exampleDisk : FileSystem (Option String) where
  node loc :=
    if loc <+: ["h", ".config", "workwithme", "skills"] then some .dir
    else if loc = ["h", "notes.md"] then some (.file (some "private"))
    else none
  cwd := []
  maxLinks := 40
  cwd_plain := .root

/-- **A request that reads a file elsewhere**: two dots lead out of the directory. -/
theorem not_confined : ¬ ∀ (home : Option String) (fs : FileSystem (Option String))
    (source slug : String), Confined home fs source slug := by
  intro hall
  obtain ⟨dir, -, hentry⟩ := hall (some "/h") exampleDisk "user" "../../../notes" _ rfl
  have hlast : ["h", "notes.md"].getLast? = (dir ++ ["../../../notes.md"]).getLast? :=
    congrArg List.getLast? (Option.some.inj hentry)
  rw [List.getLast?_concat] at hlast
  exact absurd hlast (by decide)

end Content

end WorkWithMe.Skills
