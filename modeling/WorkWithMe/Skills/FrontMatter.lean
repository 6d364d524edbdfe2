import Mathlib.Logic.Function.Basic
import WorkWithMe.Lib.Lines
import WorkWithMe.Lib.Rust
import WorkWithMe.Skills.Content

/-!
# The front matter of a skill

`parse_frontmatter` of `server/skills.rs` reads what stands at the beginning of a skill, between two
lines that begin with three dashes: lines with a key, a colon and a value.  White space around the
keys and the values does not count, nor do quotes around the values, and of several lines with one
key the last counts.  `get_skill_content` writes such a text for the skills in the program.

* `Fenced` are the lines between the first two that begin with three dashes, and
  `parseFrontmatter_of_fenced` is what is read of them.
* `parseFrontmatter_render`: a name and a description are read as they were written.
* **`frontmatter_spec`** is both, and that nothing else in the text makes a difference.
-/

set_option autoImplicit false

namespace WorkWithMe.Skills

open Lines

/-! ## Reading -/

/-- A `HashMap`, by what is in it. -/
abbrev FrontMatter := String → Option String

/-- The line begins with three dashes. -/
def IsFence (line : List Char) : Prop := "---".toList <+: line

instance (line : List Char) : Decidable (IsFence line) :=
  inferInstanceAs (Decidable ("---".toList <+: line))

/-- `c == '"' || c == '\''`. -/
def isQuote (c : Char) : Bool := c = '"' || c = '\''

/-- `str::trim_matches`. -/
def trimMatches (p : Char → Bool) (s : String) : String :=
  .ofList ((s.toList.dropWhile p).rdropWhile p)

/-- What a line adds. -/
def insertLine (fm : FrontMatter) (line : List Char) : FrontMatter :=
  match Rust.splitOnce ':' line with
  | none => fm
  | some (before, behind) =>
    let key := Rust.trim (.ofList before)
    let raw := Rust.trim (.ofList behind)
    if key ≠ "" then Function.update fm key (some (trimMatches isQuote raw)) else fm

/-- `parse_frontmatter`. -/
def parseFrontmatter (content : String) : Option FrontMatter :=
  match strLines content.toList with
  | [] => none
  | first :: lines =>
    if ¬ IsFence first then none
    else (lines.findIdx? fun line ↦ IsFence line).map fun endIdx ↦
      (lines.take endIdx).foldl insertLine fun _ ↦ none

/-! ## Writing -/

/-- The text of a name, a description and a body. -/
def render (name description body : String) : String :=
  "---\nname: " ++ name ++ "\ndescription: " ++ description ++ "\n---\n\n" ++ body

theorem content_eq_render (e : SkillEntry) :
    e.content = render e.name e.description e.description := rfl

/-- One line, without white space or quotes at its ends. -/
structure Plain (s : String) : Prop where
  /-- There is no line feed in it. -/
  line : lineFeed ∉ s.toList
  /-- What it begins with. -/
  head : ∀ c ∈ s.toList.head?, Rust.isWhitespace c = false ∧ isQuote c = false
  /-- What it ends in. -/
  last : ∀ c ∈ s.toList.getLast?, Rust.isWhitespace c = false ∧ isQuote c = false

/-- A name and a description. -/
def nameAndDescription (name description : String) : FrontMatter := fun key ↦
  if key = "name" then some name else if key = "description" then some description else none

/-! ## The lines between -/

/-- The lines between the first two that begin with three dashes, where the first line is one. -/
structure Fenced (content : String) (between : List (List Char)) : Prop where
  /-- Two lines begin with three dashes. -/
  lines : ∃ first closing rest, IsFence first ∧ IsFence closing ∧
    strLines content.toList = first :: (between ++ closing :: rest)
  /-- None does between them. -/
  none : ∀ line ∈ between, ¬ IsFence line

section Fenced

variable {content : String} {between : List (List Char)}

/-- **What is read** of the lines between. -/
theorem parseFrontmatter_of_fenced (h : Fenced content between) :
    parseFrontmatter content = some (between.foldl insertLine fun _ ↦ none) := by
  obtain ⟨first, closing, rest, hfirst, hclosing, hlines⟩ := h.lines
  have hidx : (between ++ closing :: rest).findIdx? (fun line ↦ IsFence line) =
      some between.length := by
    have hnone : between.findIdx? (fun line ↦ IsFence line) = none :=
      List.findIdx?_eq_none_iff.mpr fun line hline ↦ decide_eq_false (h.none line hline)
    rw [List.findIdx?_append, hnone, List.findIdx?_cons, decide_eq_true hclosing]
    simp
  rw [parseFrontmatter, hlines]
  dsimp only
  rw [if_neg (not_not_intro hfirst), hidx, Option.map_some, List.take_left]

/-- There are such lines where a later line begins with three dashes. -/
theorem exists_fenced {first : List Char} {lines : List (List Char)}
    (hlines : strLines content.toList = first :: lines) (hfirst : IsFence first)
    (hclosing : ∃ line ∈ lines, IsFence line) : ∃ between, Fenced content between := by
  have hsome : (lines.find? fun line ↦ IsFence line).isSome := by
    obtain ⟨line, hline, hfence⟩ := hclosing
    exact List.find?_isSome.mpr ⟨line, hline, decide_eq_true hfence⟩
  obtain ⟨closing, hfind⟩ := Option.isSome_iff_exists.mp hsome
  obtain ⟨hfence, between, rest, rfl, hnone⟩ := List.find?_eq_some_iff_append.mp hfind
  refine ⟨between, ⟨first, closing, rest, hfirst, of_decide_eq_true hfence, hlines⟩, ?_⟩
  exact fun line hline ↦ by simpa using hnone line hline

end Fenced

/-! ## The text of a name and a description -/

section Plain

variable {s : String}

theorem Plain.dropReturn (h : Plain s) {cs : List Char} (hcs : cs.getLast? ≠ some '\r') :
    dropReturn (cs ++ s.toList) = cs ++ s.toList := by
  refine if_neg fun hlast ↦ ?_
  rw [List.getLast?_append] at hlast
  cases hs : s.toList.getLast? with
  | none =>
    rw [hs] at hlast
    exact hcs hlast
  | some c =>
    rw [hs] at hlast
    obtain rfl : c = '\r' := Option.some.inj hlast
    exact absurd (h.last '\r' hs).1 (by decide)

/-- White space before the text is trimmed, and no more. -/
theorem Plain.trim (h : Plain s) : Rust.trim (.ofList (' ' :: s.toList)) = s := by
  have htrim := @Rust.trim_append [' '] s.toList [] (List.forall_mem_singleton.mpr rfl)
    (List.forall_mem_nil _) (fun c hc ↦ (h.head c hc).1) fun c hc ↦ (h.last c hc).1
  rwa [List.append_nil, List.singleton_append, String.ofList_toList] at htrim

/-- There are no quotes to be trimmed. -/
theorem Plain.trimMatches (h : Plain s) : trimMatches isQuote s = s := by
  have hfront : s.toList.dropWhile isQuote = s.toList := by
    refine List.dropWhile_eq_self_iff.mpr fun hne ↦ ?_
    have hhead : s.toList[0] ∈ s.toList.head? := by
      rw [List.head?_eq_getElem?, List.getElem?_eq_getElem hne]
      rfl
    have hquote := (h.head s.toList[0] hhead).2
    simpa using hquote
  have hback : s.toList.rdropWhile isQuote = s.toList := by
    refine List.rdropWhile_eq_self_iff.mpr fun hne ↦ ?_
    have hquote := (h.last _ (List.getLast?_eq_some_getLast hne)).2
    simpa using hquote
  rw [Skills.trimMatches, hfront, hback, String.ofList_toList]

/-- **A line with a key and a value** adds these. -/
theorem insertLine_append (h : Plain s) {key : String} (hcolon : ':' ∉ key.toList)
    (hkey : Rust.trim key = key) (hne : key ≠ "") (fm : FrontMatter) :
    insertLine fm (key.toList ++ ':' :: ' ' :: s.toList) = Function.update fm key (some s) := by
  rw [insertLine, Rust.splitOnce_append_cons hcolon]
  dsimp only
  rw [String.ofList_toList, hkey, if_pos hne, h.trim, h.trimMatches]

end Plain

section Render

variable {name description : String}

/-- **The lines of the text.** -/
theorem fenced_render (hname : Plain name) (hdescription : Plain description) (body : String) :
    Fenced (render name description body)
      ["name: ".toList ++ name.toList, "description: ".toList ++ description.toList] := by
  have htext : (render name description body).toList =
      "---".toList ++ lineFeed :: (("name: ".toList ++ name.toList) ++ lineFeed ::
        (("description: ".toList ++ description.toList) ++ lineFeed ::
          ("---".toList ++ lineFeed :: (lineFeed :: body.toList)))) := by
    simp [render, lineFeed]
  constructor
  · refine ⟨"---".toList, "---".toList, strLines (lineFeed :: body.toList), by decide, by decide,
      ?_⟩
    rw [htext, strLines_append_lineFeed (by decide), strLines_append_lineFeed,
      strLines_append_lineFeed, strLines_append_lineFeed (by decide), hname.dropReturn (by decide),
      hdescription.dropReturn (by decide)]
    · rfl
    · exact fun h ↦ (List.mem_append.mp h).elim (by decide) hdescription.line
    · exact fun h ↦ (List.mem_append.mp h).elim (by decide) hname.line
  · simp [IsFence]

/-- **A name and a description are read as they were written.** -/
theorem parseFrontmatter_render (hname : Plain name) (hdescription : Plain description)
    (body : String) : parseFrontmatter (render name description body) =
      some (nameAndDescription name description) := by
  have hkeys : ("name: ".toList ++ name.toList = "name".toList ++ ':' :: ' ' :: name.toList) ∧
      "description: ".toList ++ description.toList =
        "description".toList ++ ':' :: ' ' :: description.toList := ⟨rfl, rfl⟩
  rw [parseFrontmatter_of_fenced (fenced_render hname hdescription body), hkeys.1, hkeys.2,
    List.foldl_cons, List.foldl_cons, List.foldl_nil,
    insertLine_append hname (by decide) (by decide) (by decide),
    insertLine_append hdescription (by decide) (by decide) (by decide)]
  congr 1
  funext key
  rw [nameAndDescription, Function.update_apply, Function.update_apply]
  split_ifs with hd hn <;> simp_all

end Render

/-! ## The law -/

/-- **The front matter is read as it was written**, and depends on the lines between the first two
that begin with three dashes alone. -/
theorem frontmatter_spec :
    (∀ name description body, Plain name → Plain description →
      parseFrontmatter (render name description body) =
        some (nameAndDescription name description)) ∧
    ∀ s first lines, strLines s.toList = first :: lines → IsFence first →
      (∃ line ∈ lines, IsFence line) → ∃ between fm, Fenced s between ∧
        parseFrontmatter s = some fm ∧ ∀ t, Fenced t between → parseFrontmatter t = some fm := by
  constructor
  · exact fun name description body hname hdescription ↦
      parseFrontmatter_render hname hdescription body
  · intro s first lines hlines hfirst hclosing
    obtain ⟨between, hs⟩ := exists_fenced hlines hfirst hclosing
    exact ⟨between, _, hs, parseFrontmatter_of_fenced hs, fun t ht ↦ parseFrontmatter_of_fenced ht⟩

/-- A skill with a colon and a quote in its description. -/
theorem frontmatter_spec_example : Plain "a-b" ∧ Plain "x: \"y" ∧
    parseFrontmatter (render "a-b" "x: \"y" "---") =
      some (nameAndDescription "a-b" "x: \"y") := by
  have hname : Plain "a-b" := by
    refine ⟨by decide, fun c hc ↦ ?_, fun c hc ↦ ?_⟩
    · obtain rfl : 'a' = c := Option.some.inj hc
      exact ⟨rfl, rfl⟩
    · obtain rfl : 'b' = c := Option.some.inj hc
      exact ⟨rfl, rfl⟩
  have hdescription : Plain "x: \"y" := by
    refine ⟨by decide, fun c hc ↦ ?_, fun c hc ↦ ?_⟩
    · obtain rfl : 'x' = c := Option.some.inj hc
      exact ⟨rfl, rfl⟩
    · obtain rfl : 'y' = c := Option.some.inj hc
      exact ⟨rfl, rfl⟩
  exact ⟨hname, hdescription, frontmatter_spec.1 "a-b" "x: \"y" "---" hname hdescription⟩

end WorkWithMe.Skills
