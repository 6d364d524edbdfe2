import WorkWithMe.Lib.Json

/-!
# The compact text of a JSON document

`Json.compact` writes a document on one line, without blanks.  A quote, a backslash and the control
characters in a string are written as escapes, so a line feed in a string is not one in the text.
The text of a number is written as it is: `Json.Numerals` says that the numbers of a document are
written with digits, signs, points and exponents only.

`Json.lineFeed_notMem_compact` says that the compact text has no line feed in it.
-/

set_option autoImplicit false

namespace Json

/-! ## Characters -/

/-- The quote. -/
def quote : Char := Char.ofNat 34

/-- The backslash. -/
def backslash : Char := Char.ofNat 92

/-- A character of a string, as it is written. -/
def escape (c : Char) : List Char :=
  if c = quote ∨ c = backslash then [backslash, c]
  else if c = Char.ofNat 8 then [backslash, 'b']
  else if c = '\t' then [backslash, 't']
  else if c = '\n' then [backslash, 'n']
  else if c = Char.ofNat 12 then [backslash, 'f']
  else if c = '\r' then [backslash, 'r']
  else if c.toNat < 32 then
    [backslash, 'u', '0', '0', Nat.digitChar (c.toNat / 16), Nat.digitChar (c.toNat % 16)]
  else [c]

/-- A string, as it is written. -/
def quoted (s : String) : List Char := quote :: (s.toList.flatMap escape ++ [quote])

/-- The characters of a number. -/
def isNumeralChar (c : Char) : Bool := c.isDigit || c ∈ ['+', '-', '.', 'e', 'E']

/-! ## Documents -/

mutual

/-- The compact text of a document. -/
def compact : Json → List Char
  | null => "null".toList
  | bool b => (if b then "true" else "false").toList
  | num text => text.toList
  | str s => quoted s
  | arr [] => "[]".toList
  | arr (v :: vs) => '[' :: (compact v ++ compactElems vs ++ [']'])
  | obj [] => ['{', '}']
  | obj ((k, v) :: ms) => '{' :: (quoted k ++ ':' :: compact v ++ compactMembers ms ++ ['}'])

/-- The elements of an array, but for the first one. -/
def compactElems : List Json → List Char
  | [] => []
  | v :: vs => ',' :: (compact v ++ compactElems vs)

/-- The members of an object, but for the first one. -/
def compactMembers : List (String × Json) → List Char
  | [] => []
  | (k, v) :: ms => ',' :: (quoted k ++ ':' :: compact v ++ compactMembers ms)

end

/-- The text of an object begins with an opening brace and ends with a closing one. -/
theorem exists_compact_obj (ms : List (String × Json)) :
    ∃ inner, (obj ms).compact = '{' :: (inner ++ ['}']) := by
  cases ms with
  | nil => exact ⟨[], by rw [compact]; rfl⟩
  | cons m ms =>
    obtain ⟨k, v⟩ := m
    exact ⟨_, by rw [compact]⟩

mutual

/-- The numbers of a document are written with the characters of numbers. -/
def Numerals : Json → Prop
  | num text => ∀ c ∈ text.toList, isNumeralChar c = true
  | arr vs => NumeralsElems vs
  | obj ms => NumeralsMembers ms
  | _ => True

/-- So are those of an array. -/
def NumeralsElems : List Json → Prop
  | [] => True
  | v :: vs => Numerals v ∧ NumeralsElems vs

/-- So are those of an object. -/
def NumeralsMembers : List (String × Json) → Prop
  | [] => True
  | (_, v) :: ms => Numerals v ∧ NumeralsMembers ms

end

/-! ## One line -/

/-- The hexadecimal digits are not line feeds. -/
theorem digitChar_ne_lineFeed : ∀ n < 16, '\n' ≠ Nat.digitChar n := by decide

/-- An escape has no line feed in it. -/
theorem lineFeed_notMem_escape (c : Char) : '\n' ∉ escape c := by
  rw [escape]
  split_ifs with hc h₁ h₂ hfeed h₃ h₄ hlow
  · obtain rfl | rfl := hc <;> decide
  · decide
  · decide
  · decide
  · decide
  · decide
  · have hhigh := digitChar_ne_lineFeed (c.toNat / 16) (by omega)
    have hrest := digitChar_ne_lineFeed (c.toNat % 16) (by omega)
    have hslash : '\n' ≠ backslash := by decide
    simp [hhigh, hrest, hslash]
  · exact fun hmem ↦ hfeed (List.mem_singleton.mp hmem).symm

theorem lineFeed_notMem_quoted (s : String) : '\n' ∉ quoted s := by
  have hquote : '\n' ≠ quote := by decide
  simp [quoted, hquote, lineFeed_notMem_escape]

mutual

/-- **A compact text is one line.** -/
theorem lineFeed_notMem_compact : ∀ v : Json, v.Numerals → '\n' ∉ v.compact
  | null, _ => by decide
  | bool b, _ => by cases b <;> decide
  | num text, h => fun hmem ↦ absurd (h _ hmem) (by decide)
  | str s, _ => lineFeed_notMem_quoted s
  | arr [], _ => by decide
  | arr (v :: vs), h => by
    simp [compact, lineFeed_notMem_compact v h.1, lineFeed_notMem_compactElems vs h.2]
  | obj [], _ => by decide
  | obj ((k, v) :: ms), h => by
    simp [compact, lineFeed_notMem_quoted, lineFeed_notMem_compact v h.1,
      lineFeed_notMem_compactMembers ms h.2]

theorem lineFeed_notMem_compactElems : ∀ vs : List Json, NumeralsElems vs → '\n' ∉ compactElems vs
  | [], _ => List.not_mem_nil
  | v :: vs, h => by
    simp [compactElems, lineFeed_notMem_compact v h.1, lineFeed_notMem_compactElems vs h.2]

theorem lineFeed_notMem_compactMembers :
    ∀ ms : List (String × Json), NumeralsMembers ms → '\n' ∉ compactMembers ms
  | [], _ => List.not_mem_nil
  | (k, v) :: ms, h => by
    simp [compactMembers, lineFeed_notMem_quoted, lineFeed_notMem_compact v h.1,
      lineFeed_notMem_compactMembers ms h.2]

end

end Json
