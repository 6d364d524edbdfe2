import WorkWithMe.Lib.JsonText
import WorkWithMe.Lib.Rust
import WorkWithMe.Voice.Meeting

/-!
# The summary in the answer of a language model

`generateSummaryInner` sends the transcript and the notes of a meeting to a language model and reads
a summary from the answer, which may have more around the document it was asked for.  What is handed
to the parser, `jsonStr`, reaches from the first opening brace to the last closing one.

* `brace_cases` goes through the places these two can have, and `jsonStr_of_open_first` and
  `jsonStr_of_close_first` say what comes of them.  There is one in which there is no slice, and the
  task panics: the closing brace comes first, with something between the two.
* `generateSummaryInner_iff` says that this is the only one, and that an object between texts
  without braces reaches the parser as it is.
-/

set_option autoImplicit false

namespace WorkWithMe.Voice

/-! ## The source -/

/-- What is sent to the model, next to the prompt. -/
def userMessage (segments : List TranscriptSegment) (notes : Option SessionNotes) : String :=
  "TRANSCRIPT:\n" ++ " ".intercalate (segments.map TranscriptSegment.text) ++ "\n\nNOTES:\n" ++
    ((notes.bind SessionNotes.rawNotes).getD "")

/-- The prompt. -/
def systemPrompt : String :=
  "You are a meeting assistant. Analyze the transcript and notes provided, " ++
  "then return ONLY a JSON object with no other text. " ++
  "The JSON object must have exactly three fields: " ++
  "\"summary\" (a 3-5 sentence executive summary), " ++
  "\"action_items\" (newline-separated list prefixed with \"- \"), " ++
  "\"decisions\" (newline-separated list prefixed with \"- \"). " ++
  "Do not invent facts. If there are no action items or decisions, use an empty string. " ++
  "Return ONLY the JSON object, no markdown, no explanation."

/-- `json_str`, or the error there is instead.  There is neither when the slice panics. -/
def jsonStr (text : String) : Option (Except String String) :=
  match Rust.find '{' text.toList with
  | none => some (.error "no JSON object in LLM response")
  | some start =>
    match Rust.rfind '}' text.toList with
    | none => some (.error "no closing brace in LLM response")
    | some stop => (Rust.sliceInclusive text.toList start stop).map fun cs ↦ .ok (.ofList cs)

section Inner

-- the configuration, the request to the model, and `serde_json::from_str`
variable {Config : Type}
  (callLlm : Config → String → Option String → String → ℕ → Except String String)
  (fromStr : String → Except String SummaryOutput)

/-- What becomes of the text that is handed to the parser. -/
def parseSummary (json : String) : Except String SummaryOutput :=
  match fromStr json with
  | .error e => .error ("failed to parse summary JSON: " ++ e ++ "\nraw: " ++ json)
  | .ok output => .ok output

/-- `generate_summary_inner`, unless it panics. -/
def generateSummaryInner (config : Config) (segments : List TranscriptSegment)
    (notes : Option SessionNotes) (apiKey : String) : Option (Except String SummaryOutput) :=
  match callLlm config apiKey (some systemPrompt) (userMessage segments notes) 2048 with
  | .error e => some (.error e)
  | .ok text => (jsonStr text).map fun r ↦ r.bind (parseSummary fromStr)

end Inner

/-! ## Where the braces are -/

/-- The last closing brace comes before the first opening one, with something between the two. -/
def Crossed (cs : List Char) : Prop :=
  ∃ before between after, cs = before ++ '}' :: (between ++ '{' :: after) ∧ between ≠ [] ∧
    '{' ∉ before ∧ '{' ∉ between ∧ '}' ∉ between ∧ '}' ∉ after

/-- The text of an object begins with an opening brace and ends with a closing one. -/
def IsObjectText (cs : List Char) : Prop := ∃ inner, cs = '{' :: (inner ++ ['}'])

theorem isObjectText_compact (ms : List (String × Json)) : IsObjectText (Json.obj ms).compact :=
  Json.exists_compact_obj ms

/-- The last place of a character. -/
theorem exists_append_cons_of_mem {c : Char} {cs : List Char} (h : c ∈ cs) :
    ∃ front after, cs = front ++ c :: after ∧ c ∉ after := by
  obtain ⟨as, bs, hrev, has⟩ := List.eq_append_cons_of_mem (List.mem_reverse.mpr h)
  refine ⟨bs.reverse, as.reverse, ?_, fun hmem ↦ has (List.mem_reverse.mp hmem)⟩
  rw [← List.reverse_reverse cs, hrev]
  simp

/-- The opening brace comes first: what is handed over reaches from the one to the other. -/
theorem jsonStr_of_open_first {text : String} {before inner after : List Char}
    (htext : text.toList = before ++ '{' :: inner ++ '}' :: after) (hbefore : '{' ∉ before)
    (hafter : '}' ∉ after) : jsonStr text = some (.ok (.ofList ('{' :: (inner ++ ['}'])))) := by
  have hfind := Rust.find_append_cons hbefore (inner ++ '}' :: after)
  have hrfind := Rust.rfind_append_cons hafter (before ++ '{' :: inner)
  rw [← htext] at hrfind
  rw [← List.cons_append, ← List.append_assoc, ← htext] at hfind
  simp only [jsonStr, hfind, hrfind]
  rw [htext, Rust.sliceInclusive_append rfl, Option.map_some, List.cons_append]

/-- The closing brace comes first: what comes of the slice depends on what is between the two. -/
theorem jsonStr_of_close_first {text : String} {before between after : List Char}
    (htext : text.toList = before ++ '}' :: (between ++ '{' :: after)) (hbefore : '{' ∉ before)
    (hopen : '{' ∉ between) (hclose : '}' ∉ between) (hafter : '}' ∉ after) :
    jsonStr text = if between = [] then some (.ok "") else none := by
  have hfind : Rust.find '{' text.toList =
      some (Rust.byteLen before + 1 + Rust.byteLen between) := by
    have hfront : '{' ∉ before ++ '}' :: between := by simp [hbefore, hopen]
    have h := Rust.find_append_cons hfront after
    rwa [List.append_assoc, List.cons_append, ← htext, Rust.byteLen_append, Rust.byteLen,
      ← Nat.add_assoc] at h
  have hrest : '}' ∉ between ++ '{' :: after := by simp [hclose, hafter]
  have hrfind := Rust.rfind_append_cons hrest before
  rw [← htext] at hrfind
  simp only [jsonStr, hfind, hrfind]
  split
  · rename_i hnil
    rw [htext, hnil]
    exact congrArg (Option.map _) (Rust.sliceInclusive_succ rfl before _)
  · rename_i hne
    have hpos : Rust.byteLen between ≠ 0 := mt Rust.byteLen_eq_zero.mp hne
    rw [Rust.sliceInclusive_eq_none (by omega), Option.map_none]

/-- The places of the braces. -/
theorem brace_cases (cs : List Char) :
    '{' ∉ cs ∨ '}' ∉ cs ∨
    (∃ before inner after, cs = before ++ '{' :: inner ++ '}' :: after ∧ '{' ∉ before ∧
      '}' ∉ after) ∨
    ∃ before between after, cs = before ++ '}' :: (between ++ '{' :: after) ∧
      '{' ∉ before ∧ '{' ∉ between ∧ '}' ∉ between ∧ '}' ∉ after := by
  by_cases hopen : '{' ∈ cs
  · by_cases hclose : '}' ∈ cs
    · obtain ⟨before, rest, hcs, hbefore⟩ := List.eq_append_cons_of_mem hopen
      obtain ⟨front, after, hcs', hafter⟩ := exists_append_cons_of_mem hclose
      refine .inr (.inr ?_)
      obtain ⟨inner, hfront, hrest⟩ | ⟨between, hbetween, hrest⟩ :=
        List.append_eq_append_iff.mp (hcs.symm.trans hcs')
      · obtain ⟨-, hcons⟩ | ⟨inner, rfl, -⟩ := List.cons_eq_append_iff.mp hrest
        · cases hcons
        · exact .inl ⟨before, inner, after, hfront ▸ hcs', hbefore, hafter⟩
      · obtain ⟨-, hcons⟩ | ⟨between, rfl, hafter'⟩ := List.cons_eq_append_iff.mp hrest
        · cases hcons
        · rw [hbetween] at hbefore
          rw [hafter'] at hcs' hafter
          simp only [List.mem_append, List.mem_cons, not_or] at hbefore hafter
          exact .inr ⟨front, between, rest, hcs', hbefore.1, hbefore.2.2, hafter.1, hafter.2.2⟩
    · exact .inr (.inl hclose)
  · exact .inl hopen

/-- **When there is no slice.** -/
theorem jsonStr_eq_none_iff (text : String) : jsonStr text = none ↔ Crossed text.toList := by
  constructor
  · intro h
    obtain hopen | hclose | ⟨before, inner, after, htext, hbefore, hafter⟩ |
      ⟨before, between, after, htext, hbefore, hopen, hclose, hafter⟩ := brace_cases text.toList
    · simp only [jsonStr, Rust.find_eq_none_iff.mpr hopen, reduceCtorEq] at h
    · simp only [jsonStr, Rust.rfind_eq_none_iff.mpr hclose] at h
      split at h <;> cases h
    · rw [jsonStr_of_open_first htext hbefore hafter] at h
      cases h
    · rw [jsonStr_of_close_first htext hbefore hopen hclose hafter] at h
      refine ⟨before, between, after, htext, fun hnil ↦ ?_, hbefore, hopen, hclose, hafter⟩
      rw [if_pos hnil] at h
      cases h
  · rintro ⟨before, between, after, htext, hne, hbefore, hopen, hclose, hafter⟩
    rw [jsonStr_of_close_first htext hbefore hopen hclose hafter, if_neg hne]

/-- An object between two texts without braces is handed over as it is. -/
theorem jsonStr_of_isObjectText {text : String} {before object after : List Char}
    (hobject : IsObjectText object) (htext : text.toList = before ++ object ++ after)
    (hbefore : '{' ∉ before) (hafter : '}' ∉ after) :
    jsonStr text = some (.ok (.ofList object)) := by
  obtain ⟨inner, rfl⟩ := hobject
  exact jsonStr_of_open_first (by simpa using htext) hbefore hafter

section Main

variable {Config : Type}
  (callLlm : Config → String → Option String → String → ℕ → Except String String)
  (fromStr : String → Except String SummaryOutput)

/-- **The extraction**: whatever the model answers, the task comes to an end without a panic unless
the braces are crossed; and from an object with no brace before and behind it, the parser gets just
that object. -/
theorem generateSummaryInner_iff (config : Config) (segments : List TranscriptSegment)
    (notes : Option SessionNotes) (apiKey text : String)
    (hanswer : callLlm config apiKey (some systemPrompt) (userMessage segments notes) 2048 =
      .ok text) :
    ((∃ r, generateSummaryInner callLlm fromStr config segments notes apiKey = some r) ↔
      ¬ Crossed text.toList) ∧
    ∀ before object after, text.toList = before ++ object ++ after → IsObjectText object →
      '{' ∉ before → '}' ∉ before → '{' ∉ after → '}' ∉ after →
        generateSummaryInner callLlm fromStr config segments notes apiKey =
          some (parseSummary fromStr (.ofList object)) := by
  rw [generateSummaryInner, hanswer]
  refine ⟨?_, fun before object after htext hobject hopen _ _ hclose ↦ ?_⟩
  · rw [← jsonStr_eq_none_iff]
    cases hjson : jsonStr text with
    | none => simp [hjson]
    | some r => simp [hjson]
  · simp only [jsonStr_of_isObjectText hobject htext hopen hclose]
    rfl

/-- An answer with the object in a block of code. -/
theorem generateSummaryInner_iff_example :
    generateSummaryInner (fun _ _ _ _ _ ↦ .ok "```json\n{}\n```") (fun _ ↦ .ok ⟨"", "", ""⟩) () []
      none "" = some (.ok ⟨"", "", ""⟩) :=
  (generateSummaryInner_iff (fun _ _ _ _ _ ↦ .ok "```json\n{}\n```") (fun _ ↦ .ok ⟨"", "", ""⟩) ()
    [] none "" "```json\n{}\n```" rfl).2 "```json\n".toList "{}".toList "\n```".toList (by decide)
    ⟨[], by decide⟩ (by decide) (by decide) (by decide) (by decide)

/-- An answer in which the closing brace comes first: the task panics. -/
theorem generateSummaryInner_counterexample :
    generateSummaryInner (fun _ _ _ _ _ ↦ .ok "Neither \x7d nor \x7b.")
      (fun _ ↦ .ok ⟨"", "", ""⟩) () [] none "" = none := by
  decide

end Main

end WorkWithMe.Voice
