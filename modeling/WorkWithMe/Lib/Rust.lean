import Mathlib.Data.List.DropRight
import Mathlib.Data.List.TakeWhile

/-!
# Texts, as the standard library of Rust has them

* `Rust.trim` is `str::trim`, by the characters of the property `White_Space`, and `Rust.Blank` says
  of a text that it has no others: `Rust.trim_eq_empty_iff`.
* `Rust.not_blank_trim` is for code that looks whether anything is left, and then goes on with what
  is left.
* `Rust.trim_append` is what `trim` leaves of a text with white space around it.
* `Rust.splitOnce` and `Rust.rsplitOnce` split a text at the first and at the last place a character
  has, and `Rust.trimStartMatches` takes a text away from the front.
* A position in a text is a number of bytes.  `Rust.find` and `Rust.rfind` give the position of the
  first and of the last place a character has, and `Rust.sliceInclusive` is what stands between two
  positions, or a panic: `Rust.sliceInclusive_append` says what it is, and
  `Rust.sliceInclusive_eq_none` that there is nothing between positions out of order.
-/

set_option autoImplicit false

namespace Rust

/-- `char::is_whitespace`. -/
def isWhitespace (c : Char) : Bool :=
  (9 ≤ c.toNat && c.toNat ≤ 13) || (0x2000 ≤ c.toNat && c.toNat ≤ 0x200A) ||
    [0x20, 0x85, 0xA0, 0x1680, 0x2028, 0x2029, 0x202F, 0x205F, 0x3000].contains c.toNat

/-- `str::trim`. -/
def trim (s : String) : String :=
  .ofList ((s.toList.dropWhile isWhitespace).rdropWhile isWhitespace)

/-- The text is white space. -/
def Blank (s : String) : Prop := ∀ c ∈ s.toList, isWhitespace c = true

instance (s : String) : Decidable (Blank s) :=
  inferInstanceAs (Decidable (∀ c ∈ s.toList, isWhitespace c = true))

/-- What is left of a text that is not white space ends in a character that is not. -/
theorem not_blank_trim {s : String} (h : ¬ Blank s) : ¬ Blank (trim s) := by
  have hfront : s.toList.dropWhile isWhitespace ≠ [] :=
    fun hnil ↦ h (List.dropWhile_eq_nil_iff.mp hnil)
  have hhead := List.head_dropWhile_not isWhitespace hfront
  have hleft : (s.toList.dropWhile isWhitespace).rdropWhile isWhitespace ≠ [] := by
    intro hnil
    rw [List.rdropWhile_eq_nil_iff.mp hnil _ (List.head_mem hfront)] at hhead
    cases hhead
  intro hblank
  rw [Blank, trim, String.toList_ofList] at hblank
  exact List.rdropWhile_last_not _ _ hleft (hblank _ (List.getLast_mem hleft))

/-- **Nothing is left of white space**, and of nothing else. -/
theorem trim_eq_empty_iff (s : String) : trim s = "" ↔ Blank s := by
  constructor
  · intro h
    by_contra hblank
    refine not_blank_trim hblank ?_
    rw [h]
    exact List.forall_mem_nil _
  · intro h
    rw [trim, List.dropWhile_eq_nil_iff.mpr h]
    rfl

/-- A text is one without white space at its end, and white space. -/
theorem exists_append_isWhitespace (cs : List Char) : ∃ core back, cs = core ++ back ∧
    (∀ c ∈ core.getLast?, isWhitespace c = false) ∧ ∀ c ∈ back, isWhitespace c = true := by
  refine ⟨cs.rdropWhile isWhitespace, cs.rtakeWhile isWhitespace,
    List.rdropWhile_append_rtakeWhile.symm, fun c hc ↦ ?_, fun c hc ↦ List.mem_rtakeWhile_imp hc⟩
  obtain ⟨hne, rfl⟩ := List.mem_getLast?_eq_getLast hc
  exact Bool.eq_false_iff.mpr (List.rdropWhile_last_not _ _ hne)

/-- **What `trim` leaves** of a text with white space around it. -/
theorem trim_append {front core back : List Char} (hfront : ∀ c ∈ front, isWhitespace c = true)
    (hback : ∀ c ∈ back, isWhitespace c = true)
    (hhead : ∀ c ∈ core.head?, isWhitespace c = false)
    (hlast : ∀ c ∈ core.getLast?, isWhitespace c = false) :
    trim (.ofList (front ++ (core ++ back))) = .ofList core := by
  have hdrop : ∀ l m : List Char, (∀ c ∈ m.head?, isWhitespace c = false) →
      (∀ c ∈ l, isWhitespace c = true) → (l ++ m).dropWhile isWhitespace = m := by
    intro l m hm hl
    rw [List.dropWhile_append_of_pos hl]
    cases m with
    | nil => rfl
    | cons c m =>
      rw [List.dropWhile_cons_of_neg]
      rw [hm c rfl]
      exact Bool.false_ne_true
  rw [trim, String.toList_ofList]
  cases core with
  | nil =>
    rw [List.nil_append, List.dropWhile_eq_nil_iff.mpr, List.rdropWhile_nil]
    intro c hc
    exact (List.mem_append.mp hc).elim (hfront c) (hback c)
  | cons c core =>
    have hreverse : ∀ d ∈ (c :: core).reverse.head?, isWhitespace d = false := by
      rw [List.head?_reverse]
      exact hlast
    rw [hdrop front (c :: core ++ back) hhead hfront, List.rdropWhile, List.reverse_append,
      hdrop back.reverse _ hreverse fun d hd ↦ hback d (List.mem_reverse.mp hd),
      List.reverse_reverse]

theorem length_trim_le (s : String) : (trim s).toList.length ≤ s.toList.length := by
  rw [trim, String.toList_ofList]
  exact ((List.rdropWhile_prefix isWhitespace _).sublist.trans
    (List.dropWhile_sublist isWhitespace)).length_le

/-! ## Parts of a text -/

/-- `str::split_once` of a character: what stands before and behind the first place it has. -/
def splitOnce (c : Char) : List Char → Option (List Char × List Char)
  | [] => none
  | d :: cs => if d = c then some ([], cs) else (splitOnce c cs).map fun p ↦ (d :: p.1, p.2)

/-- `str::rsplit_once` of a character: what stands before and behind the last place it has. -/
def rsplitOnce (c : Char) : List Char → Option (List Char × List Char)
  | [] => none
  | d :: cs =>
    match rsplitOnce c cs with
    | some p => some (d :: p.1, p.2)
    | none => if d = c then some ([], cs) else none

/-- `str::split` gives back parts that were put together. -/
theorem map_ofList_splitOn_intercalate {c : Char} {parts : List String} (hne : parts ≠ [])
    (hparts : ∀ part ∈ parts, c ∉ part.toList) :
    (((String.singleton c).intercalate parts).toList.splitOn c).map String.ofList = parts := by
  have hparts : ∀ part ∈ parts.map String.toList, c ∉ part := List.forall_mem_map.mpr hparts
  rw [String.toList_intercalate, String.toList_singleton,
    List.splitOn_intercalate c hparts (by simpa using hne), List.map_map]
  exact (List.map_congr_left fun part _ ↦ String.ofList_toList).trans (List.map_id parts)

theorem splitOnce_append_cons {c : Char} {cs : List Char} (h : c ∉ cs) (ds : List Char) :
    splitOnce c (cs ++ c :: ds) = some (cs, ds) := by
  induction cs with
  | nil => rw [List.nil_append, splitOnce, if_pos rfl]
  | cons d cs ih =>
    obtain ⟨hne, hcs⟩ := List.ne_and_not_mem_of_not_mem_cons h
    rw [List.cons_append, splitOnce, if_neg hne.symm, ih hcs, Option.map_some]

theorem splitOnce_eq_some_iff {c : Char} {cs ds es : List Char} :
    splitOnce c cs = some (ds, es) ↔ cs = ds ++ c :: es ∧ c ∉ ds := by
  constructor
  · intro h
    induction cs generalizing ds with
    | nil => cases h
    | cons d cs ih =>
      rw [splitOnce] at h
      split at h
      case isTrue hd =>
        cases h
        exact ⟨by rw [hd]; rfl, List.not_mem_nil⟩
      case isFalse hd =>
        obtain ⟨⟨as, bs⟩, hp, hq⟩ := Option.map_eq_some_iff.mp h
        cases hq
        obtain ⟨rfl, has⟩ := ih hp
        exact ⟨rfl, List.not_mem_cons_of_ne_of_not_mem (Ne.symm hd) has⟩
  · rintro ⟨rfl, h⟩
    exact splitOnce_append_cons h es

theorem rsplitOnce_eq_none_iff {c : Char} {cs : List Char} : rsplitOnce c cs = none ↔ c ∉ cs := by
  induction cs with
  | nil => exact iff_of_true rfl List.not_mem_nil
  | cons d cs ih =>
    rw [rsplitOnce, List.mem_cons, not_or, ← ih]
    cases rsplitOnce c cs with
    | some p => simp
    | none =>
      by_cases hd : d = c
      · simp [hd]
      · simp [hd, Ne.symm hd]

theorem rsplitOnce_append_cons {c : Char} {ds : List Char} (h : c ∉ ds) (cs : List Char) :
    rsplitOnce c (cs ++ c :: ds) = some (cs, ds) := by
  induction cs with
  | nil => simp [rsplitOnce, rsplitOnce_eq_none_iff.mpr h]
  | cons d cs ih => simp only [List.cons_append, rsplitOnce, ih]

theorem rsplitOnce_eq_some_iff {c : Char} {cs ds es : List Char} :
    rsplitOnce c cs = some (ds, es) ↔ cs = ds ++ c :: es ∧ c ∉ es := by
  constructor
  · intro h
    induction cs generalizing ds with
    | nil => cases h
    | cons d cs ih =>
      rw [rsplitOnce] at h
      cases hcs : rsplitOnce c cs with
      | some p =>
        rw [hcs] at h
        cases h
        obtain ⟨rfl, hes⟩ := ih hcs
        exact ⟨rfl, hes⟩
      | none =>
        rw [hcs] at h
        dsimp only at h
        split at h
        case isTrue hd =>
          cases h
          exact ⟨by rw [hd]; rfl, rsplitOnce_eq_none_iff.mp hcs⟩
        case isFalse hd => cases h
  · rintro ⟨rfl, h⟩
    exact rsplitOnce_append_cons h ds

/-- `str::trim_start_matches` of a text: without the text in front, as often as it stands there. -/
def trimStartMatches (pat cs : List Char) : List Char :=
  if pat ≠ [] ∧ pat <+: cs then trimStartMatches pat (cs.drop pat.length) else cs
  termination_by cs.length
  decreasing_by
    rename_i h
    have hpos := List.length_pos_iff.mpr h.1
    have hle := h.2.length_le
    rw [List.length_drop]
    omega

theorem trimStartMatches_append {pat cs : List Char} (hpat : pat ≠ []) (h : ¬ pat <+: cs) :
    trimStartMatches pat (pat ++ cs) = cs := by
  rw [trimStartMatches, if_pos ⟨hpat, List.prefix_append pat cs⟩, List.drop_left,
    trimStartMatches, if_neg (not_and_of_not_right _ h)]

/-! ## Positions in a text -/

/-- `str::len`: how many bytes a text has. -/
def byteLen : List Char → ℕ
  | [] => 0
  | c :: cs => c.utf8Size + byteLen cs

/-- `str::find` of a character. -/
def find (c : Char) : List Char → Option ℕ
  | [] => none
  | d :: cs => if d = c then some 0 else (find c cs).map (d.utf8Size + ·)

/-- `str::rfind` of a character. -/
def rfind (c : Char) : List Char → Option ℕ
  | [] => none
  | d :: cs =>
    match rfind c cs with
    | some i => some (d.utf8Size + i)
    | none => if d = c then some 0 else none

/-- A text up to a position and from there on.  There is no position within a character, and none
beyond the end. -/
def splitAt : ℕ → List Char → Option (List Char × List Char)
  | 0, cs => some ([], cs)
  | _ + 1, [] => none
  | i + 1, c :: cs =>
    if c.utf8Size ≤ i + 1 then
      (splitAt (i + 1 - c.utf8Size) cs).map fun p ↦ (c :: p.1, p.2)
    else none

/-- `&s[start..=end]`, which panics unless the positions are there and in order. -/
def sliceInclusive (cs : List Char) (start stop : ℕ) : Option (List Char) :=
  if start ≤ stop + 1 then
    (splitAt (stop + 1) cs).bind fun p ↦ (splitAt start p.1).map Prod.snd
  else none

theorem byteLen_append (cs ds : List Char) : byteLen (cs ++ ds) = byteLen cs + byteLen ds := by
  induction cs with
  | nil => exact (Nat.zero_add _).symm
  | cons c cs ih => rw [List.cons_append, byteLen, byteLen, ih, Nat.add_assoc]

theorem byteLen_eq_zero {cs : List Char} : byteLen cs = 0 ↔ cs = [] := by
  cases cs with
  | nil => exact iff_of_true rfl rfl
  | cons c cs =>
    have hpos := c.utf8Size_pos
    refine iff_of_false ?_ (List.cons_ne_nil c cs)
    rw [byteLen]
    omega

/-- The position behind a beginning of a text. -/
theorem splitAt_byteLen (cs ds : List Char) : splitAt (byteLen cs) (cs ++ ds) = some (cs, ds) := by
  induction cs with
  | nil => rw [byteLen, List.nil_append, splitAt]
  | cons c cs ih =>
    have hpos := c.utf8Size_pos
    obtain ⟨i, hi⟩ : ∃ i, byteLen (c :: cs) = i + 1 :=
      Nat.exists_eq_succ_of_ne_zero (mt byteLen_eq_zero.mp (List.cons_ne_nil c cs))
    have hrest : i + 1 - c.utf8Size = byteLen cs := by rw [← hi, byteLen, Nat.add_sub_cancel_left]
    have hle : c.utf8Size ≤ i + 1 := by rw [← hi, byteLen]; exact Nat.le_add_right _ _
    rw [hi, List.cons_append, splitAt, if_pos hle, hrest, ih, Option.map_some]

theorem find_eq_none_iff {c : Char} {cs : List Char} : find c cs = none ↔ c ∉ cs := by
  induction cs with
  | nil => exact iff_of_true rfl List.not_mem_nil
  | cons d cs ih =>
    rw [find]
    by_cases hd : d = c
    · simp [hd]
    · simp [hd, ih, Ne.symm hd]

/-- The first place of a character. -/
theorem find_append_cons {c : Char} {cs : List Char} (h : c ∉ cs) (ds : List Char) :
    find c (cs ++ c :: ds) = some (byteLen cs) := by
  induction cs with
  | nil => rw [List.nil_append, find, if_pos rfl, byteLen]
  | cons d cs ih =>
    obtain ⟨hne, hcs⟩ := List.ne_and_not_mem_of_not_mem_cons h
    rw [List.cons_append, find, if_neg hne.symm, ih hcs, Option.map_some, byteLen]

theorem rfind_eq_none_iff {c : Char} {cs : List Char} : rfind c cs = none ↔ c ∉ cs := by
  induction cs with
  | nil => exact iff_of_true rfl List.not_mem_nil
  | cons d cs ih =>
    rw [rfind, List.mem_cons, not_or, ← ih]
    cases rfind c cs with
    | some i => simp
    | none =>
      by_cases hd : d = c
      · simp [hd]
      · simp [hd, Ne.symm hd]

/-- The last place of a character. -/
theorem rfind_append_cons {c : Char} {ds : List Char} (h : c ∉ ds) (cs : List Char) :
    rfind c (cs ++ c :: ds) = some (byteLen cs) := by
  induction cs with
  | nil => simp [rfind, rfind_eq_none_iff.mpr h, byteLen]
  | cons d cs ih => simp only [List.cons_append, rfind, ih, byteLen]

/-- A slice up to a character of one byte is what stands before that character, and the
character. -/
theorem sliceInclusive_append {c : Char} (hc : c.utf8Size = 1) (cs ds es : List Char) :
    sliceInclusive (cs ++ ds ++ c :: es) (byteLen cs) (byteLen (cs ++ ds)) =
      some (ds ++ [c]) := by
  have hstop : byteLen (cs ++ ds) + 1 = byteLen (cs ++ (ds ++ [c])) := by
    rw [← List.append_assoc, byteLen_append (cs ++ ds), byteLen, byteLen, hc]
  have htext : cs ++ ds ++ c :: es = cs ++ (ds ++ [c]) ++ es := by simp
  have hle : byteLen cs ≤ byteLen (cs ++ (ds ++ [c])) := by
    rw [byteLen_append]
    exact Nat.le_add_right _ _
  rw [sliceInclusive, hstop, if_pos hle, htext, splitAt_byteLen, Option.bind_some,
    splitAt_byteLen, Option.map_some]

/-- A slice that begins directly behind its end is empty. -/
theorem sliceInclusive_succ {c : Char} (hc : c.utf8Size = 1) (cs es : List Char) :
    sliceInclusive (cs ++ c :: es) (byteLen cs + 1) (byteLen cs) = some [] := by
  have hstop : byteLen cs + 1 = byteLen (cs ++ [c]) := by
    rw [byteLen_append, byteLen, byteLen, hc]
  have hstart := splitAt_byteLen (cs ++ [c]) []
  rw [List.append_nil] at hstart
  rw [sliceInclusive, if_pos le_rfl, hstop, List.append_cons cs c es, splitAt_byteLen,
    Option.bind_some, hstart, Option.map_some]

/-- There is no slice between positions out of order. -/
theorem sliceInclusive_eq_none {cs : List Char} {start stop : ℕ} (h : stop + 1 < start) :
    sliceInclusive cs start stop = none := if_neg (Nat.not_le.mpr h)

end Rust
