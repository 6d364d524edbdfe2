import WorkWithMe.Pi.Compaction
import WorkWithMe.Pi.KeptMessages

/-!
# Where a compaction cuts

`prepareCompaction` divides the entries of a path into four parts: what an earlier compaction has
dealt with, what is to be summarized, the beginning of a turn that is to be summarized on its own,
and what is kept.  `prepareCompaction_divides` says so, and that what is kept begins with a message
that is not the result of a call.
-/

set_option autoImplicit false

namespace WorkWithMe.Pi

variable {entries l : List SessionEntry} {e : SessionEntry} {settings : CompactionSettings}
  {p : CompactionPreparation}

/-! ## Kinds of entries -/

/-- The entry is neither a message nor a compaction. -/
def SessionEntry.isNote (e : SessionEntry) : Bool := !(e.isCompactionBoundary || e.isMessageLike)

theorem SessionEntry.compaction?_of_isNote (h : e.isNote = true) : e.compaction? = none := by
  rw [isNote, Bool.not_eq_true', Bool.or_eq_false_iff, isCompactionBoundary,
    Option.isSome_eq_false_iff, Option.isNone_iff_eq_none] at h
  exact h.1

theorem SessionEntry.modelMessage_of_isNote (h : e.isNote = true) : e.modelMessage = none := by
  obtain ⟨id, parentId, payload⟩ := e
  cases payload <;> first | rfl | cases h

theorem modelMessages_of_isNote (h : ∀ e ∈ l, e.isNote = true) : modelMessages l = [] :=
  List.filterMap_eq_nil_iff.mpr fun e he ↦ e.modelMessage_of_isNote (h e he)

/-- A cut may come before these entries: what is not a message may come first, then there is one that
is not the result of a call. -/
def CutSafe (kept : List SessionEntry) : Prop :=
  ∃ notes b rest, kept = notes ++ b :: rest ∧ (∀ e ∈ notes, e.isNote = true) ∧ b.isCutPoint = true

/-! ## Parts of lists -/

/-- The parts between three places of a list. -/
theorem divide_eq {α : Type} (l : List α) {i t j : ℕ} (hit : i ≤ t) (htj : t ≤ j) :
    l.take i ++ ((l.take t).drop i ++ (l.take j).drop t ++ l.drop j) = l := by
  have hbetween {i j : ℕ} (h : i ≤ j) : l.take i ++ (l.take j).drop i = l.take j := by
    conv_rhs => rw [← List.take_append_drop i (l.take j), List.take_take, Nat.min_eq_left h]
  rw [← List.append_assoc, ← List.append_assoc, hbetween hit, hbetween htj, List.take_append_drop]

theorem drop_eq_cons {α : Type} {l : List α} {i : ℕ} {a : α} (h : l[i]? = some a) :
    l.drop i = a :: l.drop (i + 1) := by
  obtain ⟨hi, rfl⟩ := List.getElem?_eq_some_iff.mp h
  exact List.drop_eq_getElem_cons hi

/-! ## The loops -/

theorem mem_findValidCutPoints {i : ℕ} {startIndex endIndex : ℕ}
    (hi : i ∈ findValidCutPoints entries startIndex endIndex) :
    startIndex ≤ i ∧ i < endIndex ∧ ∃ e, entries[i]? = some e ∧ e.isCutPoint = true := by
  obtain ⟨⟨e, j⟩, hmem, hj⟩ := List.mem_filterMap.mp hi
  obtain ⟨hcut, rfl⟩ : e.isCutPoint = true ∧ j = i := by simpa using hj
  obtain ⟨n, hn, heq⟩ := List.mem_iff_getElem.mp hmem
  rw [List.length_drop, List.length_take, List.length_zipIdx] at hn
  rw [List.getElem_drop, List.getElem_take, List.getElem_zipIdx, Prod.mk.injEq] at heq
  obtain ⟨rfl, rfl⟩ := heq
  refine ⟨by omega, by omega, _, ?_, hcut⟩
  rw [Nat.zero_add]
  exact List.getElem?_eq_getElem _

variable (entries) in
theorem findCutIndex_mem (cutPoints : List ℕ) (keep cutIndex : ℕ) (tokens : ℕ)
    (indices : List ℕ) :
    findCutIndex entries cutPoints keep cutIndex tokens indices = cutIndex ∨
      findCutIndex entries cutPoints keep cutIndex tokens indices ∈ cutPoints := by
  induction indices generalizing tokens with
  | nil => exact .inl rfl
  | cons i indices ih =>
    rw [findCutIndex]
    split
    · exact ih _
    · simp only
      split
      · cases h : (cutPoints.takeWhile (· ≤ i)).getLast? with
        | none => exact .inl rfl
        | some j =>
          exact .inr ((List.takeWhile_sublist _).subset (List.mem_of_getLast? h))
      · exact ih _

/-- What is taken along is no message. -/
theorem takeAlong_spec {startIndex cutIndex : ℕ} (h : startIndex ≤ cutIndex)
    (hlt : cutIndex < entries.length) :
    startIndex ≤ takeAlong entries startIndex cutIndex ∧
      takeAlong entries startIndex cutIndex ≤ cutIndex ∧
      ∀ e ∈ (entries.take cutIndex).drop (takeAlong entries startIndex cutIndex),
        e.isNote = true := by
  induction cutIndex with
  | zero => simpa [takeAlong] using h
  | succ cutIndex ih =>
    have hstop : ∀ e ∈ (entries.take (cutIndex + 1)).drop (cutIndex + 1), e.isNote = true := by
      simp
    rw [takeAlong]
    split
    · split
      · exact ⟨h, le_rfl, hstop⟩
      · rename_i hstart hprev
        have hget : entries[cutIndex]? = some entries[cutIndex] :=
          List.getElem?_eq_getElem (by omega)
        rw [hget, Option.any_some, Bool.not_eq_true] at hprev
        obtain ⟨h₁, h₂, h₃⟩ := ih (by omega) (by omega)
        refine ⟨h₁, by omega, ?_⟩
        rw [List.take_succ_eq_append_getElem (by omega), List.drop_append_of_le_length
          (by rw [List.length_take]; omega), List.forall_mem_append]
        exact ⟨h₃, by simpa [SessionEntry.isNote] using hprev⟩
    · exact ⟨h, le_rfl, hstop⟩

theorem findTurnStartIndex_spec {cutIndex startIndex t : ℕ}
    (h : findTurnStartIndex entries cutIndex startIndex = some t) :
    startIndex ≤ t ∧ t ≤ cutIndex ∧ ∃ e, entries[t]? = some e ∧ e.isUserTurnStart = true := by
  have hmem := List.mem_of_find?_eq_some h
  have hturn := List.find?_some h
  rw [List.mem_reverse, List.mem_range'_1] at hmem
  refine ⟨hmem.1, by omega, ?_⟩
  cases he : entries[t]? with
  | none => rw [he] at hturn; cases hturn
  | some e => exact ⟨e, rfl, by rwa [he] at hturn⟩

/-- **Where the cut is**, if there is something to cut. -/
theorem findCutPoint_spec {startIndex : ℕ} (keep : ℕ)
    (hpoints : findValidCutPoints entries startIndex entries.length ≠ []) :
    startIndex ≤ (findCutPoint entries startIndex entries.length keep).firstKeptEntryIndex ∧
      CutSafe (entries.drop
        (findCutPoint entries startIndex entries.length keep).firstKeptEntryIndex) ∧
      ((findCutPoint entries startIndex entries.length keep).isSplitTurn = true →
        ∃ t, (findCutPoint entries startIndex entries.length keep).turnStartIndex = some t ∧
          startIndex ≤ t ∧
          t < (findCutPoint entries startIndex entries.length keep).firstKeptEntryIndex ∧
          ∃ e, entries[t]? = some e ∧ e.isUserTurnStart = true) := by
  cases hcut : findValidCutPoints entries startIndex entries.length with
  | nil => exact absurd hcut hpoints
  | cons first rest =>
    rw [findCutPoint, hcut]
    simp only
    generalize hj : findCutIndex entries (first :: rest) keep first 0
      (List.range' startIndex (entries.length - startIndex)).reverse = j
    have hmem : j ∈ findValidCutPoints entries startIndex entries.length := by
      rw [hcut]
      rcases findCutIndex_mem entries (first :: rest) keep first 0
        (List.range' startIndex (entries.length - startIndex)).reverse with h | h
      · rw [← hj, h]
        exact List.mem_cons_self
      · rwa [← hj]
    obtain ⟨hstart, hlt, b, hb, hpoint⟩ := mem_findValidCutPoints hmem
    obtain ⟨hle, hge, hnotes⟩ := takeAlong_spec hstart hlt
    generalize takeAlong entries startIndex j = cut at hle hge hnotes ⊢
    refine ⟨hle, ⟨(entries.take j).drop cut, b, entries.drop (j + 1), ?_, hnotes, hpoint⟩,
      fun hsplit ↦ ?_⟩
    · rw [← drop_eq_cons hb, ← List.drop_append_of_le_length (by rw [List.length_take]; omega),
        List.take_append_drop]
    · obtain ⟨huser, hturn⟩ := Bool.and_eq_true_iff.mp hsplit
      rw [Bool.not_eq_true'] at huser
      rw [huser] at hturn ⊢
      obtain ⟨t, ht⟩ := Option.isSome_iff_exists.mp hturn
      obtain ⟨h₁, h₂, e, he, hstart⟩ := findTurnStartIndex_spec (by simpa using ht)
      refine ⟨t, ht, h₁, lt_of_le_of_ne h₂ ?_, e, he, hstart⟩
      rintro rfl
      rw [he, Option.any_some, hstart] at huser
      cases huser

/-! ## The parts -/

/-- How the entries of a path are divided. -/
structure CompactionPreparation.Divides (p : CompactionPreparation)
    (entries old history turn kept : List SessionEntry) : Prop where
  entries : entries = old ++ history ++ turn ++ kept
  old : old = [] ∧ p.previousSummary = none ∨
    ∃ pre e c, old = pre ++ [e] ∧ e.compaction? = some c ∧ p.previousSummary = some c.summary
  recent : Uncompacted (history ++ turn ++ kept)
  summarized : p.messagesToSummarize = history.filterMap messageFromEntry
  turnPrefix : p.turnPrefixMessages = turn.filterMap messageFromEntry
  something : p.messagesToSummarize ≠ [] ∨ p.turnPrefixMessages ≠ []
  turnStart : turn = [] ∨ ∃ e rest, turn = e :: rest ∧ e.isUserTurnStart = true
  keptStart : ∃ b rest, kept = b :: rest ∧ b.id = some p.firstKeptEntryId
  safe : CutSafe kept

/-- What comes before and behind the last compaction. -/
theorem exists_boundary (entries : List SessionEntry) :
    ∃ old recent, entries = old ++ recent ∧ Uncompacted recent ∧
      ((lastCompaction entries).map fun p ↦ p.1 + 1).getD 0 = old.length ∧
      (old = [] ∧ lastCompaction entries = none ∨ ∃ pre e c, old = pre ++ [e] ∧
        e.compaction? = some c ∧ lastCompaction entries = some (pre.length, c)) := by
  rcases lastCompaction_cases entries with ⟨hlast, h⟩ | ⟨pre, e, post, c, rfl, hc, h, hlast⟩
  · exact ⟨[], entries, rfl, h, by rw [hlast]; rfl, .inl ⟨rfl, hlast⟩⟩
  · refine ⟨pre ++ [e], post, by simp, h, by rw [hlast]; simp, .inr ⟨pre, e, c, rfl, hc, hlast⟩⟩

/-- **What is prepared divides the path**, and loses nothing of what came after the last
compaction. -/
theorem prepareCompaction_divides (h : prepareCompaction entries settings = some p) :
    ∃ old history turn kept, p.Divides entries old history turn kept := by
  obtain ⟨old, recent, hentries, hrecent, hboundary, hold⟩ := exists_boundary entries
  rw [prepareCompaction] at h
  split at h
  · cases h
  simp only [hboundary] at h
  split at h
  swap
  · cases h
  split at h
  · cases h
  rename_i firstKeptEntryId hkept
  by_cases hpoints : findValidCutPoints entries old.length entries.length = []
  · simp [findCutPoint, hpoints, messagesBetween] at h
  obtain ⟨hstart, hsafe, hsplit⟩ := findCutPoint_spec settings.keepRecentTokens hpoints
  generalize findCutPoint entries old.length entries.length settings.keepRecentTokens = cut
    at h hkept hstart hsafe hsplit
  obtain ⟨j, turnStart, isSplit⟩ := cut
  simp only at h hkept hstart hsafe hsplit
  -- where the history ends, and what is known of the turn that begins there
  obtain ⟨t, ht, hot, htj, hturn⟩ : ∃ t, (if isSplit = true then turnStart else some j) = some t ∧
      old.length ≤ t ∧ t ≤ j ∧ (t = j ∨ ∃ e, entries[t]? = some e ∧ e.isUserTurnStart = true) := by
    cases isSplit with
    | false => exact ⟨j, rfl, hstart, le_rfl, .inl rfl⟩
    | true =>
      obtain ⟨t, ht, hot, htj, he⟩ := hsplit rfl
      exact ⟨t, ht, hot, htj.le, .inr he⟩
  rw [ht] at h
  simp only at h
  split at h
  · cases h
  rename_i hsomething
  cases h
  have hold' : entries.take old.length = old := by rw [hentries, List.take_left]
  have hall : old ++ ((entries.take t).drop old.length ++ (entries.take j).drop t ++
      entries.drop j) = entries := by
    have hall := divide_eq entries hot htj
    rwa [hold'] at hall
  have hrest : (entries.take t).drop old.length ++ (entries.take j).drop t ++ entries.drop j =
      recent := List.append_cancel_left (hall.trans hentries)
  refine ⟨old, (entries.take t).drop old.length, (entries.take j).drop t, entries.drop j,
    by simpa using hall.symm, ?_, hrest ▸ hrecent, rfl, rfl, ?_, ?_, ?_, hsafe⟩
  · rcases hold with ⟨rfl, hlast⟩ | ⟨pre, e, c, rfl, hc, hlast⟩
    · exact .inl ⟨rfl, by rw [hlast]; rfl⟩
    · exact .inr ⟨pre, e, c, rfl, hc, by rw [hlast]; rfl⟩
  · rwa [Bool.and_eq_true, List.isEmpty_iff, List.isEmpty_iff, not_and_or] at hsomething
  · rcases hturn with rfl | ⟨e, he, hstart⟩
    · exact .inl (by simp)
    · rcases htj.eq_or_lt with rfl | hlt
      · exact .inl (by simp)
      · have htake : (entries.take j)[t]? = some e := by rw [List.getElem?_take_of_lt hlt, he]
        exact .inr ⟨e, _, drop_eq_cons htake, hstart⟩
  · obtain ⟨b, hb, hid⟩ := Option.bind_eq_some_iff.mp hkept
    exact ⟨b, _, drop_eq_cons hb, hid⟩

end WorkWithMe.Pi
