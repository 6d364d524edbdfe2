import Mathlib.Data.List.Basic

/-!
# The texts that the full-text engine takes for a query

A query of FTS5 is a text in a language of its own: words that are taken as they stand, among them
the operators `AND`, `OR`, `NOT` and `NEAR`, signs such as `*` and `:`, and string literals.  A
literal is a double quote, then any characters with each double quote among them doubled, then a
double quote.

* `Fts5.lex` reads a text as the tokens it is made of, and fails where it is made of none.
* `Fts5.quote` is the literal of a text: **`Fts5.lex_quote`** says that it is read as one literal
  with the text for its value, whatever quotes the text has and wherever it has them.
-/

set_option autoImplicit false

namespace Fts5

/-! ## Tokens -/

/-- A token of a query. -/
inductive Token where
  /-- A string literal, with its value. -/
  | literal (value : List Char)
  /-- A word that stands without quotes. -/
  | bareword (word : List Char)
  /-- A sign. -/
  | sign (c : Char)
  deriving DecidableEq

/-- What may stand between two tokens. -/
def isSpace (c : Char) : Bool := [' ', '\t', '\n', '\r'].contains c

/-- The characters that are tokens by themselves. -/
def isSign (c : Char) : Bool :=
  ['(', ')', '\x7b', '\x7d', ':', ',', '+', '*', '-', '^'].contains c

/-- The characters of a word that stands without quotes. -/
def isBareword (c : Char) : Bool := c.isAlphanum || c = '_' || c.toNat = 26 || 128 ≤ c.toNat

/-- The value of a literal behind its first quote, and what comes after it.  Two quotes in a row
stand for one, and a quote that no other follows ends the literal. -/
def readLiteral : List Char → Option (List Char × List Char)
  | [] => none
  | '"' :: '"' :: cs => (readLiteral cs).map fun p ↦ ('"' :: p.1, p.2)
  | '"' :: cs => some ([], cs)
  | c :: cs => (readLiteral cs).map fun p ↦ (c :: p.1, p.2)

/-- The first token of a text that begins with one, and what comes after it. -/
def readToken : List Char → Option (Token × List Char)
  | [] => none
  | c :: cs =>
    if c = '"' then (readLiteral cs).map fun p ↦ (.literal p.1, p.2)
    else if isSign c then some (.sign c, cs)
    else if isBareword c then
      some (.bareword (c :: cs.takeWhile isBareword), cs.dropWhile isBareword)
    else none

theorem length_of_readLiteral {cs : List Char} {p : List Char × List Char}
    (h : readLiteral cs = some p) : p.2.length < cs.length := by
  fun_induction readLiteral cs generalizing p with
  | case1 => cases h
  | case2 cs ih =>
    obtain ⟨q, hq, rfl⟩ := Option.map_eq_some_iff.mp h
    have := ih hq
    simp only [List.length_cons]
    omega
  | case3 => cases h; simp
  | case4 c cs _ _ ih =>
    obtain ⟨q, hq, rfl⟩ := Option.map_eq_some_iff.mp h
    have := ih hq
    simp only [List.length_cons]
    omega

/-- A token takes at least a character. -/
theorem length_of_readToken {cs : List Char} {p : Token × List Char}
    (h : readToken cs = some p) : p.2.length < cs.length := by
  cases cs with
  | nil => cases h
  | cons c cs =>
    rw [readToken] at h
    split_ifs at h with hq hs hb
    · obtain ⟨q, hlit, rfl⟩ := Option.map_eq_some_iff.mp h
      have := length_of_readLiteral hlit
      simp only [List.length_cons]
      omega
    · cases h; simp
    · cases h
      have := (List.dropWhile_suffix isBareword (l := cs)).length_le
      simp only [List.length_cons]
      omega

/-- **The tokens of a text.** -/
def lex : List Char → Option (List Token)
  | [] => some []
  | c :: cs =>
    if isSpace c then lex cs
    else
      match h : readToken (c :: cs) with
      | none => none
      | some p =>
        have : p.2.length < (c :: cs).length := length_of_readToken h
        (lex p.2).map (p.1 :: ·)
  termination_by cs => cs.length
  decreasing_by
    · exact Nat.lt_succ_self _
    · exact this

/-! ## The literal of a text -/

/-- The text with each double quote doubled. -/
def double (cs : List Char) : List Char := cs.flatMap fun c ↦ if c = '"' then ['"', '"'] else [c]

/-- The literal of a text. -/
def quote (cs : List Char) : List Char := '"' :: double cs ++ ['"']

/-- **Reading undoes the doubling**, and does not stop before the quote that ends the literal. -/
theorem readLiteral_double (cs rest : List Char) (hrest : ∀ d ds, rest = d :: ds → d ≠ '"') :
    readLiteral (double cs ++ '"' :: rest) = some (cs, rest) := by
  induction cs with
  | nil =>
    cases rest with
    | nil => rfl
    | cons d ds =>
      show readLiteral ('"' :: d :: ds) = some ([], d :: ds)
      rw [readLiteral]
      exact fun ds' h ↦ hrest d ds rfl (List.cons.inj h).1
  | cons c cs ih =>
    by_cases hc : c = '"'
    · have hdouble : double (c :: cs) = '"' :: '"' :: double cs := by simp [double, hc]
      rw [hdouble, List.cons_append, List.cons_append, readLiteral, ih, hc]
      rfl
    · have hdouble : double (c :: cs) = c :: double cs := by simp [double, hc]
      rw [hdouble, List.cons_append, readLiteral, ih]
      · rfl
      · exact fun _ h ↦ absurd h hc
      · exact hc

/-- A text that begins with a token is read as that token and what comes after it. -/
theorem lex_of_readToken {c : Char} {cs rest : List Char} {token : Token}
    (hspace : isSpace c = false) (h : readToken (c :: cs) = some (token, rest)) :
    lex (c :: cs) = (lex rest).map (token :: ·) := by
  rw [lex, if_neg (by simp [hspace])]
  split
  case h_1 hnone => rw [h] at hnone; cases hnone
  case h_2 p hsome =>
    obtain rfl : (token, rest) = p := Option.some.inj (h.symm.trans hsome)
    rfl

/-- **The literal of a text is read as one literal**, of which the text is the value. -/
theorem lex_quote (cs : List Char) : lex (quote cs) = some [.literal cs] := by
  have hread : readToken ('"' :: (double cs ++ ['"'])) = some (.literal cs, []) := by
    rw [readToken, if_pos rfl,
      readLiteral_double cs [] fun d ds h ↦ absurd h (List.cons_ne_nil d ds).symm]
    rfl
  rw [quote, List.cons_append, lex_of_readToken (by decide) hread, lex]
  rfl

end Fts5
