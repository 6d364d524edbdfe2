import Mathlib.Data.List.Nodup
import WorkWithMe.Connectors.Adding
import WorkWithMe.Lib.Words

/-!
# Which slugs are valid

`generateSlug` makes words of a name, with dashes between them, and cuts the text after 63
characters.  If this is taken, it appends the numbers from 2 to 99, and cuts the text again.  The
dashes at the ends are taken away before the first cut, not after it, and the second cut may leave
nothing of the number.

* `SlugLaw` is what a slug shall be: new, of at most 63 characters, and words with dashes between
  them; and there is none only where 98 different numbers have been tried.
* `Fits` is the condition under which it is, in terms of the length of the text before the cut.
* **`slugLaw_iff_fits`** says so; `not_slugLaw` is a name that is cut behind a dash.
-/

set_option autoImplicit false

namespace WorkWithMe.Connectors

open Words

/-! ## The law -/

/-- `^[a-z0-9]+(-[a-z0-9]+)*$`. -/
def IsSlugWords (slug : String) : Prop := IsWords isSlugChar '-' slug.toList

instance (slug : String) : Decidable (IsSlugWords slug) :=
  inferInstanceAs (Decidable (IsWords isSlugChar '-' slug.toList))

/-- **What a slug shall be**, among those there are. -/
structure SlugLaw (toLowerCase : String → String) (name : String) (existingIds : List String) :
    Prop where
  /-- It is new. -/
  fresh : generateSlug toLowerCase name existingIds ≠ "" →
    generateSlug toLowerCase name existingIds ∉ existingIds
  /-- It is not too long. -/
  short : (generateSlug toLowerCase name existingIds).toList.length ≤ 63
  /-- It is of words with dashes between them. -/
  words : generateSlug toLowerCase name existingIds ≠ "" →
    IsSlugWords (generateSlug toLowerCase name existingIds)
  /-- There is one, unless that of the name and 98 numbered ones are taken. -/
  exhausted : generateSlug toLowerCase name existingIds = "" →
    slugBase toLowerCase name ∈ existingIds ∧ (candidates (slugBase toLowerCase name)).Nodup ∧
      ∀ candidate ∈ candidates (slugBase toLowerCase name), candidate ∈ existingIds

/-- The text of a slug before the cut. -/
def slugText (toLowerCase : String → String) (name : String) : List Char :=
  let text := undashed (dashed (toLowerCase name).toList)
  if text = [] then "custom".toList else text

/-- **When the slug is what it shall be**: where the text is not taken, it is not cut behind a dash;
where it is, there is room for a number of two digits, or for one digit and one of the nine is
free. -/
def Fits (text : List Char) (existingIds : List String) : Prop :=
  if String.ofList (text.take 63) ∉ existingIds then ¬ (63 < text.length ∧ text[62]? = some '-')
  else text.length ≤ 60 ∨ text.length = 61 ∧
    ∃ d ∈ "123456789".toList, String.ofList (text ++ ['-', d]) ∉ existingIds

/-! ## The text before the cut -/

section Text

variable (toLowerCase : String → String) (name : String)

theorem apart_dashed (cs : List Char) : Apart '-' (dashed cs) := by
  induction cs with
  | nil => exact List.isChain_nil
  | cons c cs ih =>
    rw [dashed]
    split_ifs with hc
    · refine List.isChain_cons.mpr ⟨fun d _ hdash ↦ ?_, ih⟩
      rw [hdash] at hc
      exact absurd hc (by decide)
    · split
      · rename_i rest hrest
        rwa [← hrest]
      · rename_i hrest
        refine List.isChain_cons.mpr ⟨fun d hd _ hdash ↦ ?_, ih⟩
        obtain ⟨rest, hcons⟩ := List.head?_eq_some_iff.mp (Option.mem_def.mp hd)
        exact hrest rest (hdash ▸ hcons)

theorem isWords_slugText : IsWords isSlugChar '-' (slugText toLowerCase name) := by
  rw [slugText]
  split_ifs with hnil
  · decide
  · exact isWords_rdropWhile rfl (fun _ hc ↦ isSlugChar_or_of_mem_dashed hc) (apart_dashed _) hnil

theorem toList_slugBase :
    (slugBase toLowerCase name).toList = (slugText toLowerCase name).take 63 := by
  have hchars : slugChars toLowerCase name = [] ↔
      undashed (dashed (toLowerCase name).toList) = [] := by
    rw [slugChars, List.take_eq_nil_iff, or_iff_right (by decide)]
  rw [slugBase, slugText]
  by_cases hnil : undashed (dashed (toLowerCase name).toList) = []
  · rw [if_pos (hchars.mpr hnil), if_pos hnil]
    rfl
  · rw [if_neg (mt hchars.mp hnil), if_neg hnil, String.toList_ofList, slugChars]

end Text

/-! ## The cut -/

section Cut

variable {text : List Char}

/-- **The cut leaves words**, unless it is behind a dash. -/
theorem isWords_take_iff (hwords : IsWords isSlugChar '-' text) :
    IsWords isSlugChar '-' (text.take 63) ↔ ¬ (63 < text.length ∧ text[62]? = some '-') := by
  by_cases hlength : text.length ≤ 63
  · rw [List.take_of_length_le hlength]
    exact iff_of_true hwords fun h ↦ absurd h.1 (by omega)
  · have hbegins := ((isWords_iff rfl).mp hwords).1.mono ( List.take_prefix 63 text)
    have hlt : 62 < text.length := by omega
    have hget : text[62]? = some text[62] := List.getElem?_eq_getElem hlt
    rw [isWords_iff rfl, and_iff_right hbegins, and_iff_right (by omega), List.getLast?_cons,
      List.getLast?_take, if_neg (by decide), hget]
    simp

variable {base : String}

/-- What is appended, and cut. -/
def candidateChars (text : List Char) (i : ℕ) : List Char :=
  text.take 63 ++ ('-' :: (toString i).toList).take (63 - text.length)

theorem candidates_eq (hbase : base.toList = text.take 63) :
    candidates base = (List.range' 2 98).map fun i ↦ .ofList (candidateChars text i) := by
  refine List.map_congr_left fun i _ ↦ congrArg String.ofList ?_
  have hdash : "-".toList = ['-'] := rfl
  rw [candidateChars, String.toList_append, String.toList_append, hbase, hdash, List.append_assoc,
    List.singleton_append, List.take_append, List.take_take, Nat.min_self, List.length_take]
  congr 2
  omega

theorem candidateChars_of_le (hlength : text.length ≤ 61) (i : ℕ) : candidateChars text i =
    text ++ '-' :: (toString i).toList.take (62 - text.length) := by
  have hroom : 63 - text.length = 62 - text.length + 1 := by omega
  rw [candidateChars, List.take_of_length_le (by omega), hroom, List.take_succ_cons]

/-- **Numbers of two digits**, where there is room for them. -/
theorem nodup_candidates (hbase : base.toList = text.take 63) (hlength : text.length ≤ 60) :
    (candidates base).Nodup := by
  rw [candidates_eq hbase]
  refine List.Nodup.map_on (fun i hi j hj h ↦ ?_) List.nodup_range'
  have hshort : ∀ k ∈ List.range' 2 98, (toString k).toList.take (62 - text.length) =
      (Nat.repr k).toList := by
    intro k hk
    have hle : (Nat.repr k).length ≤ 2 :=
      (Nat.length_repr_le_iff (by decide)).mpr (by have := (List.mem_range'_1.mp hk).2; omega)
    rw [Nat.toString_eq_repr, List.take_of_length_le]
    rw [String.length_toList]
    omega
  have h := String.ofList_injective h
  rw [candidateChars_of_le (by omega), candidateChars_of_le (by omega), hshort i hi, hshort j hj]
    at h
  exact Nat.repr_injective (String.toList_inj.mp (List.cons.inj (List.append_cancel_left h)).2)

/-- Without that room, 10 and 11 are cut to the same text. -/
theorem not_nodup_candidates (hbase : base.toList = text.take 63) (hlength : 61 ≤ text.length) :
    ¬ (candidates base).Nodup := by
  rw [candidates_eq hbase]
  intro hnodup
  have hsame : candidateChars text 10 = candidateChars text 11 := by
    have hcut : ∀ k ≤ 2, ('-' :: (toString 10).toList).take k =
        ('-' :: (toString 11).toList).take k := by decide
    rw [candidateChars, candidateChars, hcut _ (by omega)]
  have heq := List.inj_on_of_nodup_map hnodup (x := 10) (by decide) (y := 11) (by decide)
    (congrArg String.ofList hsame)
  cases heq

/-- With room for a digit, the candidates are words. -/
theorem isSlugWords_of_mem_candidates (hwords : IsWords isSlugChar '-' text)
    (hbase : base.toList = text.take 63) (hlength : text.length ≤ 61) {candidate : String}
    (h : candidate ∈ candidates base) : IsSlugWords candidate := by
  rw [candidates_eq hbase] at h
  obtain ⟨i, -, rfl⟩ := List.mem_map.mp h
  rw [IsSlugWords, String.toList_ofList, candidateChars_of_le hlength]
  refine hwords.append (isWords_of_forall rfl (fun hnil ↦ ?_) fun c hc ↦
    isSlugChar_of_mem_toString (List.mem_of_mem_take hc))
  rcases List.take_eq_nil_iff.mp hnil with hzero | hnil
  · omega
  · rw [Nat.toString_eq_repr, Nat.toList_repr] at hnil
    exact Nat.toDigits_ne_nil hnil

/-- With room for the dash alone, they are not. -/
theorem not_isSlugWords_of_mem_candidates (hbase : base.toList = text.take 63)
    (hlength : text.length = 62) {candidate : String} (h : candidate ∈ candidates base) :
    ¬ IsSlugWords candidate := by
  rw [candidates_eq hbase] at h
  obtain ⟨i, -, rfl⟩ := List.mem_map.mp h
  rw [IsSlugWords, String.toList_ofList, candidateChars, hlength, isWords_iff rfl]
  rintro ⟨-, hlast⟩
  rw [List.take_succ_cons, List.take_zero, ← List.cons_append, List.getLast?_concat] at hlast
  exact hlast rfl

/-- Without room, they are all the text itself. -/
theorem eq_of_mem_candidates (hbase : base.toList = text.take 63) (hlength : 63 ≤ text.length)
    {candidate : String} (h : candidate ∈ candidates base) : candidate = base := by
  rw [candidates_eq hbase] at h
  obtain ⟨i, -, rfl⟩ := List.mem_map.mp h
  have hnone : 63 - text.length = 0 := by omega
  rw [candidateChars, hnone, List.take_zero, List.append_nil, ← hbase, String.ofList_toList]

/-- With room for one digit, it is the first of the number. -/
theorem exists_candidate_iff (hbase : base.toList = text.take 63) (hlength : text.length = 61)
    {existingIds : List String} : (∃ candidate ∈ candidates base, candidate ∉ existingIds) ↔
      ∃ d ∈ "123456789".toList, String.ofList (text ++ ['-', d]) ∉ existingIds := by
  have hfirst : ((List.range' 2 98).all fun i ↦ "123456789".toList.any fun d ↦
      (toString i).toList.take 1 = [d]) = true := by decide
  have hdigit : ("123456789".toList.all fun d ↦ (List.range' 2 98).any fun i ↦
      (toString i).toList.take 1 = [d]) = true := by decide
  rw [candidates_eq hbase]
  constructor
  · rintro ⟨candidate, hmem, hnew⟩
    obtain ⟨i, hi, rfl⟩ := List.mem_map.mp hmem
    obtain ⟨d, hd, hi⟩ := List.any_eq_true.mp (List.all_eq_true.mp hfirst i hi)
    rw [candidateChars_of_le hlength.le, hlength, of_decide_eq_true hi] at hnew
    exact ⟨d, hd, hnew⟩
  · rintro ⟨d, hd, hnew⟩
    obtain ⟨i, hi, hdi⟩ := List.any_eq_true.mp (List.all_eq_true.mp hdigit d hd)
    refine ⟨_, List.mem_map_of_mem hi, ?_⟩
    rwa [candidateChars_of_le hlength.le, hlength, of_decide_eq_true hdi]

theorem ne_empty_of_mem_candidates (hbase : base.toList = text.take 63) (hne : text ≠ [])
    {candidate : String} (h : candidate ∈ candidates base) : candidate ≠ "" := by
  rw [candidates_eq hbase] at h
  obtain ⟨i, -, rfl⟩ := List.mem_map.mp h
  intro hempty
  have hchars : candidateChars text i = [] := String.ofList_injective hempty
  rw [candidateChars, List.append_eq_nil_iff, List.take_eq_nil_iff] at hchars
  exact hchars.1.elim (by decide) hne

end Cut

/-! ## When the slug is what it shall be -/

section Law

variable {toLowerCase : String → String} {name : String} {existingIds : List String}

/-- Where there is a slug, the words are what is left to be shown. -/
theorem slugLaw_iff_isSlugWords {slug : String}
    (hslug : generateSlug toLowerCase name existingIds = slug) (hne : slug ≠ "") :
    SlugLaw toLowerCase name existingIds ↔ IsSlugWords slug := by
  subst hslug
  obtain ⟨hnew, hslug⟩ := generateSlug_spec.resolve_left hne
  exact ⟨fun h ↦ h.words hne,
    fun hwords ↦ ⟨fun _ ↦ hnew, hslug.1, fun _ ↦ hwords, fun hempty ↦ absurd hempty hne⟩⟩

/-- Where there is none, the candidates are all taken. -/
theorem slugLaw_iff_nodup (hslug : generateSlug toLowerCase name existingIds = "")
    (htaken : slugBase toLowerCase name ∈ existingIds)
    (hall : ∀ candidate ∈ candidates (slugBase toLowerCase name), candidate ∈ existingIds) :
    SlugLaw toLowerCase name existingIds ↔ (candidates (slugBase toLowerCase name)).Nodup := by
  refine ⟨fun h ↦ (h.exhausted hslug).2.1, fun hnodup ↦ ?_⟩
  exact ⟨fun hne ↦ absurd hslug hne, by rw [hslug]; decide, fun hne ↦ absurd hslug hne,
    fun _ ↦ ⟨htaken, hnodup, hall⟩⟩

variable {text : List Char}

/-- **The slug of the name is new**: it is what it shall be unless it is cut behind a dash. -/
theorem slugLaw_iff_of_notMem (hwords : IsWords isSlugChar '-' text)
    (hbase : (slugBase toLowerCase name).toList = text.take 63)
    (hnew : slugBase toLowerCase name ∉ existingIds) :
    SlugLaw toLowerCase name existingIds ↔ ¬ (63 < text.length ∧ text[62]? = some '-') := by
  have hslug : generateSlug toLowerCase name existingIds = slugBase toLowerCase name := if_pos hnew
  have hempty : slugBase toLowerCase name ≠ "" := by
    intro hempty
    rw [hempty] at hbase
    refine (List.take_eq_nil_iff.mp hbase.symm).elim (by decide) fun hnil ↦ ?_
    exact not_isWords_nil (hnil ▸ hwords)
  rw [slugLaw_iff_isSlugWords hslug hempty, IsSlugWords, hbase]
  exact isWords_take_iff hwords

/-- **All the candidates are taken**: so it shall be where there is room for numbers of two
digits. -/
theorem slugLaw_iff_of_find?_eq_none (hbase : (slugBase toLowerCase name).toList = text.take 63)
    (htaken : slugBase toLowerCase name ∈ existingIds)
    (hfind : ((candidates (slugBase toLowerCase name)).find? fun c ↦ c ∉ existingIds) = none) :
    SlugLaw toLowerCase name existingIds ↔ text.length ≤ 60 ∨ text.length = 61 ∧
      ∃ d ∈ "123456789".toList, String.ofList (text ++ ['-', d]) ∉ existingIds := by
  have hall : ∀ c ∈ candidates (slugBase toLowerCase name), c ∈ existingIds := by
    intro c hc
    simpa using List.find?_eq_none.mp hfind c hc
  have hslug : generateSlug toLowerCase name existingIds = "" := by
    rw [generateSlug, if_neg (not_not_intro htaken), hfind, Option.getD_none]
  rw [slugLaw_iff_nodup hslug htaken hall]
  by_cases hlength : text.length ≤ 60
  · exact iff_of_true (nodup_candidates hbase hlength) (.inl hlength)
  · refine iff_of_false (not_nodup_candidates hbase (by omega)) ?_
    rintro (hle | ⟨hone, hfree⟩)
    · exact hlength hle
    · obtain ⟨c, hc, hnew⟩ := (exists_candidate_iff hbase hone).mpr hfree
      exact hnew (hall c hc)

/-- **A candidate is new**: it is what it shall be where there is room for a digit. -/
theorem slugLaw_iff_of_find?_eq_some (hwords : IsWords isSlugChar '-' text)
    (hbase : (slugBase toLowerCase name).toList = text.take 63)
    (htaken : slugBase toLowerCase name ∈ existingIds) {c : String}
    (hfind : ((candidates (slugBase toLowerCase name)).find? fun c ↦ c ∉ existingIds) = some c) :
    SlugLaw toLowerCase name existingIds ↔ text.length ≤ 60 ∨ text.length = 61 ∧
      ∃ d ∈ "123456789".toList, String.ofList (text ++ ['-', d]) ∉ existingIds := by
  have hne : text ≠ [] := fun hnil ↦ not_isWords_nil (hnil ▸ hwords)
  have hc := List.mem_of_find?_eq_some hfind
  have hnew : c ∉ existingIds := by simpa using List.find?_some hfind
  have hslug : generateSlug toLowerCase name existingIds = c := by
    rw [generateSlug, if_neg (not_not_intro htaken), hfind, Option.getD_some]
  rw [slugLaw_iff_isSlugWords hslug (ne_empty_of_mem_candidates hbase hne hc)]
  by_cases hlength : text.length ≤ 61
  · refine iff_of_true (isSlugWords_of_mem_candidates hwords hbase hlength hc) ?_
    by_cases hshort : text.length ≤ 60
    · exact .inl hshort
    · have hone : text.length = 61 := by omega
      exact .inr ⟨hone, (exists_candidate_iff hbase hone).mp ⟨c, hc, hnew⟩⟩
  · by_cases hdash : text.length = 62
    · exact iff_of_false (not_isSlugWords_of_mem_candidates hbase hdash hc) (by omega)
    · rw [eq_of_mem_candidates hbase (by omega) hc] at hnew
      exact absurd htaken hnew

end Law

/-- **When the slug is what it shall be.** -/
theorem slugLaw_iff_fits (toLowerCase : String → String) (name : String)
    (existingIds : List String) :
    SlugLaw toLowerCase name existingIds ↔ Fits (slugText toLowerCase name) existingIds := by
  have hwords := isWords_slugText toLowerCase name
  have hbase := toList_slugBase toLowerCase name
  rw [Fits, ← hbase, String.ofList_toList]
  by_cases htaken : slugBase toLowerCase name ∈ existingIds
  · rw [if_neg (not_not_intro htaken)]
    cases hfind : (candidates (slugBase toLowerCase name)).find? fun c ↦ c ∉ existingIds with
    | none => exact slugLaw_iff_of_find?_eq_none hbase htaken hfind
    | some c => exact slugLaw_iff_of_find?_eq_some hwords hbase htaken hfind
  · rw [if_pos htaken]
    exact slugLaw_iff_of_notMem hwords hbase htaken

/-- 62 letters, a blank, and a letter. -/
def exampleName : String := .ofList (List.replicate 62 'a' ++ [' ', 'b'])

/-- **A name that is cut behind a dash.** -/
theorem not_slugLaw : ¬ SlugLaw asciiLowerCase exampleName [] := by
  intro h
  exact absurd (h.words (by decide)) (by decide)

end WorkWithMe.Connectors
