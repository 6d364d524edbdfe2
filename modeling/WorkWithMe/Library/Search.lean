import Mathlib.Data.Int.Notation
import WorkWithMe.Lib.Fts5
import WorkWithMe.Lib.Rust
import WorkWithMe.Library.Db
import WorkWithMe.Voice.Db

/-!
# The text of a search, as the full-text engine gets it

What the user types into a search is put in quotes, with the quotes in it doubled, before it is
handed to `MATCH`: so that `AND`, `title:` or `*` are looked for and not obeyed.  It is done twice,
by `search_sessions` in `voice_db.rs`, which is `searchSessions` of `Voice.Db`, and by `search_conn`
in `library/db.rs`, which is `searchConn` here.

* `captures_of_searchConn` says that what is found is in the table, newest first.
* **`oneLiteral`** is that for every query that is not white space the text is read as one literal
  with the query for its value.  How the engine reads a text is `Fts5.lex`.
-/

set_option autoImplicit false

namespace WorkWithMe.Library

/-! ## The function -/

/-- Where the query of `search_conn` fails, and what the engine says. -/
inductive SearchFault where
  /-- When the statement is prepared. -/
  | prepare (e : String)
  /-- When it is run. -/
  | query (e : String)
  deriving DecidableEq

/-- The error of `search_conn`. -/
def SearchFault.text : SearchFault → String
  | .prepare e => "prepare search: " ++ e
  | .query e => "query search: " ++ e

/-- The rows of `captures_fts f JOIN captures c ON c.id = f.id`, newest first. -/
structure Joined (db : LibraryDb) (rows : List (FtsRow × CaptureEntry)) : Prop where
  /-- Each row of the index with each row of the table that has its id. -/
  perm : rows.Perm (db.fts.flatMap fun f ↦
    (db.captures.filter fun c ↦ c.id = f.id).map fun c ↦ (f, c))
  /-- The newest comes first. -/
  sorted : rows.Pairwise fun r s ↦ s.2.timestamp ≤ r.2.timestamp

/-- The query in quotes, with the quotes in it doubled. -/
def quoted (query : String) : String :=
  "\"" ++ .ofList (query.toList.flatMap fun c ↦ if c = '"' then ['"', '"'] else [c]) ++ "\""

/-- `search_conn`, where the engine joins the tables to `rows`, and `ftsMatch` says whether a text
handed to `MATCH` matches a row of the index. -/
def searchConn (ftsMatch : String → FtsRow → Bool) (query : String) (fault : Option SearchFault)
    (rows : List (FtsRow × CaptureEntry)) : Except String (List CaptureEntry) :=
  if Rust.trim query = "" then .ok []
  else match fault with
    | some e => .error e.text
    | none => .ok (((rows.filter fun r ↦ ftsMatch (quoted query) r.1).map Prod.snd).take 50)

/-! ## What it finds -/

section Found

variable {ftsMatch : String → FtsRow → Bool} {query : String} {fault : Option SearchFault}
  {db : LibraryDb} {rows : List (FtsRow × CaptureEntry)} {found : List CaptureEntry}

theorem sublist_of_searchConn (h : searchConn ftsMatch query fault rows = .ok found) :
    found.Sublist (rows.map Prod.snd) := by
  unfold searchConn at h
  split at h
  · cases h
    exact List.nil_sublist _
  · cases fault with
    | some e => cases h
    | none =>
      cases h
      exact (List.take_sublist _ _).trans (List.filter_sublist.map Prod.snd)

/-- **What the search finds is in the table**, and comes newest first. -/
theorem captures_of_searchConn (hrows : Joined db rows)
    (h : searchConn ftsMatch query fault rows = .ok found) :
    (∀ c ∈ found, c ∈ db.captures) ∧ found.Pairwise fun r s ↦ s.timestamp ≤ r.timestamp := by
  have hsub := sublist_of_searchConn h
  constructor
  · intro c hc
    obtain ⟨r, hr, rfl⟩ := List.mem_map.mp (hsub.subset hc)
    obtain ⟨f, -, hr⟩ := List.mem_flatMap.mp (hrows.perm.mem_iff.mp hr)
    obtain ⟨c, hcap, rfl⟩ := List.mem_map.mp hr
    exact (List.mem_filter.mp hcap).1
  · exact (List.pairwise_map.mpr hrows.sorted).sublist hsub

end Found

/-! ## What the engine gets -/

/-- The text that `search_conn` hands to `MATCH` is one literal, of which the query is the value. -/
theorem lex_quoted (query : String) :
    Fts5.lex (quoted query).toList = some [.literal query.toList] := by
  have hquoted : (quoted query).toList = Fts5.quote query.toList := by
    simp only [quoted, String.toList_append, String.toList_ofList]
    rfl
  rw [hquoted, Fts5.lex_quote]

/-- `search_sessions` makes the same text of a query. -/
theorem quoted_eq_safeQuery (query : String) : quoted query = Voice.safeQuery query := rfl

/-- A query that is not white space is handed on. -/
theorem searchSessions_of_not_blank {query : String} (h : ¬ Rust.Blank query)
    (ftsMatch : String → String → Bool) (rows : List Voice.FtsRow) :
    Voice.searchSessions ftsMatch query none rows =
      .ok (((rows.filter fun r ↦ ftsMatch (Voice.safeQuery query) r.text).map
        Voice.FtsRow.sessionId).eraseDups.take 50) := by
  have hblank : ¬ query.toList.all Voice.isWhiteSpace := by
    rw [List.all_eq_true]
    exact h
  rw [Voice.searchSessions, if_neg hblank]

theorem searchConn_of_not_blank {query : String} (h : ¬ Rust.Blank query)
    (ftsMatch : String → FtsRow → Bool) (rows : List (FtsRow × CaptureEntry)) :
    searchConn ftsMatch query none rows =
      .ok (((rows.filter fun r ↦ ftsMatch (quoted query) r.1).map Prod.snd).take 50) := by
  rw [searchConn, if_neg (mt (Rust.trim_eq_empty_iff query).mp h)]

/-- **Search text cannot inject operators.**  For every query that is not white space there is a
text `p` that is read as one literal with the query for its value, and with nothing before or after
it; and what `search_sessions` and `search_conn` return is what the engine finds for `p`. -/
theorem oneLiteral (query : String) (h : ∃ c ∈ query.toList, Rust.isWhitespace c = false) :
    ∃ p : String, Fts5.lex p.toList = some [.literal query.toList] ∧
      (∀ ftsMatch rows, Voice.searchSessions ftsMatch query none rows =
        .ok (((rows.filter fun r ↦ ftsMatch p r.text).map
          Voice.FtsRow.sessionId).eraseDups.take 50)) ∧
      ∀ ftsMatch rows, searchConn ftsMatch query none rows =
        .ok (((rows.filter fun r ↦ ftsMatch p r.1).map Prod.snd).take 50) := by
  have hblank : ¬ Rust.Blank query := by
    obtain ⟨c, hc, hspace⟩ := h
    intro hall
    rw [hall c hc] at hspace
    cases hspace
  refine ⟨quoted query, lex_quoted query, fun ftsMatch rows ↦ ?_, searchConn_of_not_blank hblank⟩
  rw [quoted_eq_safeQuery, searchSessions_of_not_blank hblank]

/-- A query that would end the literal if its quotes were not doubled. -/
theorem oneLiteral_example :
    ∃ p : String, Fts5.lex p.toList = some [.literal "\"\" OR title:*".toList] ∧
      (∀ ftsMatch rows, Voice.searchSessions ftsMatch "\"\" OR title:*" none rows =
        .ok (((rows.filter fun r ↦ ftsMatch p r.text).map
          Voice.FtsRow.sessionId).eraseDups.take 50)) ∧
      ∀ ftsMatch rows, searchConn ftsMatch "\"\" OR title:*" none rows =
        .ok (((rows.filter fun r ↦ ftsMatch p r.1).map Prod.snd).take 50) :=
  oneLiteral "\"\" OR title:*" ⟨'O', by decide, by decide⟩

end WorkWithMe.Library
