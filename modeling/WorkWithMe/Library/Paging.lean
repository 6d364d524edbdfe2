import Mathlib.Data.List.Perm.Subperm
import Mathlib.Data.List.Sort
import WorkWithMe.Library.Db

/-!
# Paging through the library

`list_conn` answers with the fifty newest captures that are older than a given time, and
`LibraryGrid` asks it again and again, with the time of the last capture it has received, until an
answer has fewer than fifty.  In which order a query gives captures of the same time SQLite does not
say, and not that two queries give them in the same order: `NewestFirst` is any such choice.

* `Reached` is what holds of the grid after every number of requests: what it shows is sorted, no
  capture is shown twice, and the captures of one page are older than those of the page before.
  `hasMore_scroll` says that the requests come to an end.
* `SplitsNoTie` says that no page ends between two captures of the same time, in terms of how many
  captures there are of each time.
* `complete_iff`: the grid shows all of the captures in the end if and only if no page does so.
* `not_complete` is a library of fifty-one captures of the same time.
-/

set_option autoImplicit false

namespace WorkWithMe.Library

/-! ## The query -/

/-- `i64::MAX`. -/
def i64Max : ℤ := 9223372036854775807

/-- The order in which a query gives rows, newest first. -/
structure NewestFirst where
  /-- The rows with `timestamp < ts`, in the order in which the query gives them. -/
  sort : ℤ → List CaptureEntry → List CaptureEntry
  /-- Every row is given once. -/
  perm : ∀ ts rows, (sort ts rows).Perm rows
  /-- The newest comes first. -/
  sorted : ∀ ts rows, (sort ts rows).Pairwise fun r s ↦ s.timestamp ≤ r.timestamp

/-- Rows of the same time in the order of the table. -/
def NewestFirst.stable : NewestFirst where
  sort _ rows := rows.insertionSort fun r s ↦ s.timestamp ≤ r.timestamp
  perm _ _ := List.perm_insertionSort ..
  sorted _ _ :=
    have : Std.Total (fun r s : CaptureEntry ↦ s.timestamp ≤ r.timestamp) :=
      ⟨fun r s ↦ Int.le_total s.timestamp r.timestamp⟩
    have : IsTrans CaptureEntry (fun r s ↦ s.timestamp ≤ r.timestamp) :=
      ⟨fun _ _ _ h₁ h₂ ↦ Int.le_trans h₂ h₁⟩
    List.pairwise_insertionSort ..

section Grid

variable (order : NewestFirst) (captures : List CaptureEntry)

/-- `list_conn`. -/
def listConn (beforeTs : Option ℤ) : List CaptureEntry :=
  let tsFilter := beforeTs.getD i64Max
  (order.sort tsFilter (captures.filter fun r ↦ r.timestamp < tsFilter)).take 50

/-! ## The grid -/

/-- What `LibraryGrid` shows. -/
structure Grid where
  /-- The captures that were received. -/
  entries : List CaptureEntry
  /-- The last answer was a full page. -/
  hasMore : Bool

/-- `load`, without a query. -/
def Grid.load (g : Grid) (cursor : Option ℤ) : Grid :=
  let results := listConn order captures cursor
  ⟨if cursor.isSome then g.entries ++ results else results, results.length = 50⟩

/-- The first request. -/
def Grid.first : Grid := Grid.load order captures ⟨[], true⟩ none

/-- The bottom of the grid comes into sight. -/
def Grid.scroll (g : Grid) : Grid :=
  if g.hasMore then
    match g.entries.getLast? with
    | some last => g.load order captures (some last.timestamp)
    | none => g
  else g

/-- The grid after the first request and `n` more. -/
def gridAfter (n : ℕ) : Grid := (Grid.scroll order captures)^[n] (Grid.first order captures)

/-! ## The law -/

/-- **The grid has come to the end**, and shows every capture once, the newest first. -/
structure Complete (g : Grid) : Prop where
  /-- No more requests are made. -/
  ended : g.hasMore = false
  /-- Every capture is shown once. -/
  perm : g.entries.Perm captures
  /-- The newest come first. -/
  sorted : g.entries.Pairwise fun r s ↦ s.timestamp ≤ r.timestamp

/-- **No page ends between two captures of the same time**: there is no time with fewer than
`50 * k` captures after it, and more than that many from it on. -/
def SplitsNoTie : Prop :=
  ∀ ts k, ¬ (captures.countP (fun r ↦ ts < r.timestamp) < 50 * k ∧
    50 * k < captures.countP fun r ↦ ts ≤ r.timestamp)

end Grid

/-! ## One page -/

section Page

variable {order : NewestFirst} {captures : List CaptureEntry} {ts : ℤ}

/-- The rows that the query goes through, and in which order. -/
theorem listConn_eq (order : NewestFirst) (captures : List CaptureEntry) (beforeTs : Option ℤ) :
    ∃ rows : List CaptureEntry,
      rows.Perm (captures.filter fun r ↦ r.timestamp < beforeTs.getD i64Max) ∧
        (rows.Pairwise fun r s ↦ s.timestamp ≤ r.timestamp) ∧
          listConn order captures beforeTs = rows.take 50 :=
  ⟨_, order.perm _ _, order.sorted _ _, rfl⟩

theorem timestamp_lt_of_mem_listConn {r : CaptureEntry} {beforeTs : Option ℤ}
    (h : r ∈ listConn order captures beforeTs) : r.timestamp < beforeTs.getD i64Max := by
  obtain ⟨rows, hperm, -, hpage⟩ := listConn_eq order captures beforeTs
  rw [hpage] at h
  simpa using (List.mem_filter.mp (hperm.mem_iff.mp (List.mem_of_mem_take h))).2

theorem sorted_listConn (beforeTs : Option ℤ) : (listConn order captures beforeTs).Pairwise
    fun r s ↦ s.timestamp ≤ r.timestamp := by
  obtain ⟨rows, -, hsorted, hpage⟩ := listConn_eq order captures beforeTs
  rw [hpage]
  exact hsorted.sublist (List.take_sublist 50 rows)

theorem length_listConn_le (order : NewestFirst) (captures : List CaptureEntry)
    (beforeTs : Option ℤ) :
    (listConn order captures beforeTs).length ≤ 50 := by
  obtain ⟨rows, -, -, hpage⟩ := listConn_eq order captures beforeTs
  rw [hpage, List.length_take]
  exact Nat.min_le_left ..

theorem subperm_listConn (beforeTs : Option ℤ) : (listConn order captures beforeTs).Subperm
    (captures.filter fun r ↦ r.timestamp < beforeTs.getD i64Max) := by
  obtain ⟨rows, hperm, -, hpage⟩ := listConn_eq order captures beforeTs
  rw [hpage]
  exact (List.take_sublist 50 rows).subperm.trans hperm.subperm

/-- Splitting the captures at a time. -/
theorem perm_filter_append (captures : List CaptureEntry) (ts : ℤ) :
    (captures.filter (fun r ↦ ts ≤ r.timestamp) ++
      captures.filter fun r ↦ r.timestamp < ts).Perm captures := by
  have hnot : (captures.filter fun r ↦ r.timestamp < ts) =
      captures.filter fun r ↦ !decide (ts ≤ r.timestamp) := by
    refine List.filter_congr fun r _ ↦ ?_
    rw [← decide_not, decide_eq_decide, Int.not_le]
  rw [hnot]
  exact List.filter_append_perm ..

/-- The last page: nothing older is left. -/
theorem perm_listConn_of_length_lt {beforeTs : Option ℤ}
    (h : (listConn order captures beforeTs).length ≠ 50) : (listConn order captures beforeTs).Perm
      (captures.filter fun r ↦ r.timestamp < beforeTs.getD i64Max) := by
  obtain ⟨rows, hperm, -, hpage⟩ := listConn_eq order captures beforeTs
  rw [hpage] at h ⊢
  rw [List.length_take] at h
  rwa [List.take_of_length_le (by omega)]

section Split

variable {before page rest : List CaptureEntry} {last : CaptureEntry}

/-- The captures that are newer than the last one of a page are before it. -/
theorem countP_newer_le (hrest : ∀ r ∈ rest, r.timestamp ≤ last.timestamp) :
    (before ++ ((page ++ [last]) ++ rest)).countP (fun r ↦ last.timestamp < r.timestamp) ≤
      before.length + page.length := by
  have hzero : ([last] ++ rest).countP (fun r ↦ last.timestamp < r.timestamp) = 0 := by
    rw [List.countP_eq_zero]
    intro r hr
    rcases List.mem_append.mp hr with hr | hr
    · simp [List.mem_singleton.mp hr]
    · simpa using hrest r hr
  rw [List.append_assoc, List.countP_append, List.countP_append, hzero, Nat.add_zero]
  exact Nat.add_le_add List.countP_le_length List.countP_le_length

/-- What is on a page or before it is not older than its last capture. -/
theorem countP_notOlder_eq (hbefore : ∀ r ∈ before, last.timestamp ≤ r.timestamp)
    (hpage : ∀ r ∈ page ++ [last], last.timestamp ≤ r.timestamp) :
    (before ++ ((page ++ [last]) ++ rest)).countP (fun r ↦ last.timestamp ≤ r.timestamp) =
      before.length + (page.length + 1) +
        rest.countP fun r ↦ last.timestamp ≤ r.timestamp := by
  have h₁ : before.countP (fun r ↦ last.timestamp ≤ r.timestamp) = before.length :=
    List.countP_eq_length.mpr fun r hr ↦ decide_eq_true (hbefore r hr)
  have h₂ : (page ++ [last]).countP (fun r ↦ last.timestamp ≤ r.timestamp) =
      (page ++ [last]).length :=
    List.countP_eq_length.mpr fun r hr ↦ decide_eq_true (hpage r hr)
  rw [List.countP_append, List.countP_append, h₁, h₂, List.length_append, List.length_singleton]
  omega

end Split

/-- **A full page that ends between two times** has all the captures of its last one. -/
theorem perm_listConn_of_splitsNoTie (hties : SplitsNoTie captures) {beforeTs : Option ℤ} {m : ℕ}
    (hbefore : captures.countP (fun r ↦ beforeTs.getD i64Max ≤ r.timestamp) = 50 * m)
    {page : List CaptureEntry} {last : CaptureEntry}
    (hpage : listConn order captures beforeTs = page ++ [last]) (hfull : page.length + 1 = 50) :
    (page ++ [last]).Perm
      ((captures.filter fun r ↦ r.timestamp < beforeTs.getD i64Max).filter
        fun r ↦ last.timestamp ≤ r.timestamp) := by
  obtain ⟨rows, hperm, hsorted, hrows⟩ := listConn_eq order captures beforeTs
  set before := captures.filter fun r ↦ beforeTs.getD i64Max ≤ r.timestamp with hb
  set rest := rows.drop 50 with hrest
  have hsplit : rows = (page ++ [last]) ++ rest := by
    rw [← hpage, hrows, List.take_append_drop]
  have hall : (before ++ ((page ++ [last]) ++ rest)).Perm captures := by
    rw [← hsplit]
    exact (List.Perm.append_left before hperm).trans (perm_filter_append captures _)
  have hlast : last ∈ listConn order captures beforeTs := by simp [hpage]
  have hlt := timestamp_lt_of_mem_listConn hlast
  rw [hsplit, List.pairwise_append, List.pairwise_append] at hsorted
  obtain ⟨⟨-, -, hpagelast⟩, -, hpagerest⟩ := hsorted
  have hpageall : ∀ r ∈ page ++ [last], last.timestamp ≤ r.timestamp := by
    intro r hr
    rcases List.mem_append.mp hr with hr | hr
    · exact hpagelast r hr last (List.mem_singleton_self last)
    · rw [List.mem_singleton.mp hr]
  have hbeforeall : ∀ r ∈ before, last.timestamp ≤ r.timestamp := by
    intro r hr
    have := of_decide_eq_true (List.mem_filter.mp hr).2
    omega
  have hlen : before.length = 50 * m := by
    rw [hb, ← List.countP_eq_length_filter, hbefore]
  -- fewer than `50 * (m + 1)` captures are newer than the last one of the page
  have hnewer : captures.countP (fun r ↦ last.timestamp < r.timestamp) ≤
      before.length + page.length := by
    rw [← hall.countP_eq]
    exact countP_newer_le (hpagerest last (by simp))
  -- and so exactly that many are not older
  have hcount : captures.countP (fun r ↦ last.timestamp ≤ r.timestamp) =
      before.length + (page.length + 1) +
        rest.countP fun r ↦ last.timestamp ≤ r.timestamp := by
    rw [← hall.countP_eq]
    exact countP_notOlder_eq hbeforeall hpageall
  have hnone : rest.countP (fun r ↦ last.timestamp ≤ r.timestamp) = 0 := by
    have := hties last.timestamp (m + 1)
    omega
  have hfilter : rows.filter (fun r ↦ last.timestamp ≤ r.timestamp) = page ++ [last] := by
    rw [hsplit, List.filter_append, List.filter_eq_self.mpr fun r hr ↦
      decide_eq_true (hpageall r hr), List.filter_eq_nil_iff.mpr fun r hr ↦ ?_, List.append_nil]
    exact List.countP_eq_zero.mp hnone r hr
  rw [← hfilter]
  exact hperm.filter _

end Page

/-! ## The grid, whatever the times are -/

/-- What holds of the grid after every number of requests. -/
structure Reached (captures : List CaptureEntry) (g : Grid) : Prop where
  /-- The newest come first. -/
  sorted : g.entries.Pairwise fun r s ↦ s.timestamp ≤ r.timestamp
  /-- No capture is shown twice. -/
  subperm : g.entries.Subperm captures
  /-- The captures of a page are newer than those of the pages after it. -/
  apart : ∀ k, ∀ r ∈ g.entries.take (50 * k), ∀ s ∈ g.entries.drop (50 * k),
    s.timestamp < r.timestamp
  /-- While there are more, all pages are full. -/
  full : g.hasMore = true → ∃ m, g.entries.length = 50 * (m + 1)

section Grid

variable {order : NewestFirst} {captures : List CaptureEntry} {g : Grid}

/-- One more page behind full ones. -/
theorem Reached.extend {entries : List CaptureEntry} {m : ℕ} {beforeTs : Option ℤ}
    (h : Reached captures ⟨entries, false⟩) (hlen : entries.length = 50 * m)
    (hge : ∀ r ∈ entries, beforeTs.getD i64Max ≤ r.timestamp) :
    Reached captures ⟨entries ++ listConn order captures beforeTs,
      (listConn order captures beforeTs).length = 50⟩ := by
  have hlt : ∀ r ∈ listConn order captures beforeTs, r.timestamp < beforeTs.getD i64Max :=
    fun r hr ↦ timestamp_lt_of_mem_listConn hr
  refine ⟨?_, ?_, fun k r hr s hs ↦ ?_, fun hmore ↦ ⟨m, ?_⟩⟩
  · refine List.pairwise_append.mpr ⟨h.sorted, sorted_listConn beforeTs, fun r hr s hs ↦ ?_⟩
    have := hge r hr
    have := hlt s hs
    omega
  · have hfilter : entries.filter (fun r ↦ beforeTs.getD i64Max ≤ r.timestamp) = entries :=
      List.filter_eq_self.mpr fun r hr ↦ decide_eq_true (hge r hr)
    have hsub : entries.Subperm (captures.filter fun r ↦ beforeTs.getD i64Max ≤ r.timestamp) :=
      hfilter ▸ h.subperm.filter _
    exact (List.Subperm.append hsub (subperm_listConn beforeTs)).trans
      (perm_filter_append captures _).subperm
  · dsimp only at hr hs
    rcases Nat.lt_or_ge m k with hk | hk
    · have hle := length_listConn_le order captures beforeTs
      rw [List.drop_eq_nil_iff.mpr (by rw [List.length_append]; omega)] at hs
      cases hs
    · rw [List.take_append_of_le_length (by omega)] at hr
      rw [List.drop_append_of_le_length (by omega)] at hs
      rcases List.mem_append.mp hs with hs | hs
      · exact h.apart k r hr s hs
      · have := hge r (List.mem_of_mem_take hr)
        have := hlt s hs
        omega
  · rw [List.length_append, hlen, of_decide_eq_true hmore]
    omega

theorem scroll_of_hasMore {last : CaptureEntry} (hmore : g.hasMore = true)
    (hlast : g.entries.getLast? = some last) : g.scroll order captures =
      ⟨g.entries ++ listConn order captures (some last.timestamp),
        (listConn order captures (some last.timestamp)).length = 50⟩ := by
  rw [Grid.scroll, if_pos hmore, hlast]
  rfl

theorem scroll_of_not_hasMore (hmore : g.hasMore = false) : g.scroll order captures = g := by
  rw [Grid.scroll, if_neg (by simp [hmore])]

/-- The last of the captures that are shown is not newer than the others. -/
theorem Reached.exists_last (h : Reached captures g) (hmore : g.hasMore = true) :
    ∃ last, g.entries.getLast? = some last ∧ ∀ r ∈ g.entries, last.timestamp ≤ r.timestamp := by
  obtain ⟨m, hm⟩ := h.full hmore
  have hne : g.entries ≠ [] := by
    intro hnil
    rw [hnil, List.length_nil] at hm
    omega
  obtain ⟨init, last, hinit⟩ := (List.eq_nil_or_concat' g.entries).resolve_left hne
  refine ⟨last, by rw [hinit, List.getLast?_concat], fun r hr ↦ ?_⟩
  have hsorted := h.sorted
  rw [hinit] at hr hsorted
  rcases List.mem_append.mp hr with hr | hr
  · exact (List.pairwise_append.mp hsorted).2.2 r hr last (List.mem_singleton_self last)
  · rw [List.mem_singleton.mp hr]

theorem reached_first : Reached captures (Grid.first order captures) :=
  Reached.extend (m := 0) ⟨List.Pairwise.nil, List.nil_subperm, by simp, by simp⟩
    rfl (by simp)

theorem Reached.scroll (h : Reached captures g) : Reached captures (g.scroll order captures) := by
  cases hmore : g.hasMore with
  | false => rwa [scroll_of_not_hasMore hmore]
  | true =>
    obtain ⟨last, hlast, hge⟩ := h.exists_last hmore
    obtain ⟨m, hm⟩ := h.full hmore
    rw [scroll_of_hasMore hmore hlast]
    exact Reached.extend (m := m + 1) ⟨h.sorted, h.subperm, h.apart, by simp⟩ hm hge

theorem gridAfter_succ (n : ℕ) :
    gridAfter order captures (n + 1) = (gridAfter order captures n).scroll order captures :=
  Function.iterate_succ_apply' ..

/-- **Sorted and without repetitions**: so much holds whatever the times are. -/
theorem reached_gridAfter (order : NewestFirst) (captures : List CaptureEntry) (n : ℕ) :
    Reached captures (gridAfter order captures n) := by
  induction n with
  | zero => exact reached_first
  | succ n ih =>
    rw [gridAfter_succ]
    exact ih.scroll

theorem length_gridAfter (n : ℕ) : (gridAfter order captures n).hasMore = true →
    (gridAfter order captures n).entries.length = 50 * (n + 1) := by
  induction n with
  | zero => exact fun hmore ↦ of_decide_eq_true hmore
  | succ n ih =>
    rw [gridAfter_succ]
    cases hmore : (gridAfter order captures n).hasMore with
    | false =>
      rw [scroll_of_not_hasMore hmore, hmore]
      nofun
    | true =>
      obtain ⟨last, hlast, -⟩ := (reached_gridAfter _ _ n).exists_last hmore
      rw [scroll_of_hasMore hmore hlast]
      intro hfull
      rw [List.length_append, ih hmore, of_decide_eq_true hfull]
      omega

/-- **The requests come to an end.** -/
theorem hasMore_gridAfter (order : NewestFirst) (captures : List CaptureEntry) :
    (gridAfter order captures captures.length).hasMore = false := by
  by_contra hmore
  have hlen := length_gridAfter captures.length (Bool.eq_true_of_not_eq_false hmore)
  have hle := (reached_gridAfter order captures captures.length).subperm.length_le
  omega

/-! ## Which libraries are shown completely -/

/-- When everything is shown, no page has ended between two captures of the same time. -/
theorem Reached.splitsNoTie (h : Reached captures g) (hperm : g.entries.Perm captures) :
    SplitsNoTie captures := by
  rintro ts k ⟨hlt, hgt⟩
  rw [← hperm.countP_eq, ← List.take_append_drop (50 * k) g.entries, List.countP_append] at hlt hgt
  by_cases hold : ∃ r ∈ g.entries.take (50 * k), r.timestamp ≤ ts
  · -- then nothing after that page is as new as `ts`
    obtain ⟨r, hr, hrts⟩ := hold
    have hzero : (g.entries.drop (50 * k)).countP (fun s ↦ ts ≤ s.timestamp) = 0 := by
      rw [List.countP_eq_zero]
      intro s hs
      have := h.apart k r hr s hs
      simp only [decide_eq_true_eq]
      omega
    have hle := List.countP_le_length (l := g.entries.take (50 * k))
      (p := fun s ↦ decide (ts ≤ s.timestamp))
    rw [List.length_take] at hle
    omega
  · -- then all of that page is newer than `ts`
    have hall : (g.entries.take (50 * k)).countP (fun s ↦ ts < s.timestamp) =
        (g.entries.take (50 * k)).length := by
      rw [List.countP_eq_length]
      intro s hs
      have : ¬ s.timestamp ≤ ts := fun hle ↦ hold ⟨s, hs, hle⟩
      simp only [decide_eq_true_eq]
      omega
    have hle := List.countP_le_length (l := g.entries.drop (50 * k))
      (p := fun s ↦ decide (ts ≤ s.timestamp))
    have hle' := List.countP_le_length (l := g.entries.take (50 * k))
      (p := fun s ↦ decide (ts ≤ s.timestamp))
    rw [List.length_take] at hall hle'
    rw [List.length_drop] at hle
    omega

/-- The grid shows all of the captures, or all that are not older than the last one. -/
structure Filled (captures : List CaptureEntry) (g : Grid) : Prop where
  /-- At the end. -/
  ended : g.hasMore = false → g.entries.Perm captures
  /-- Before it. -/
  before : g.hasMore = true → ∀ last, g.entries.getLast? = some last →
    g.entries.Perm (captures.filter fun r ↦ last.timestamp ≤ r.timestamp)

/-- One more page, where no page ends between two captures of the same time. -/
theorem Filled.extend (hties : SplitsNoTie captures) {entries : List CaptureEntry} {m : ℕ}
    {beforeTs : Option ℤ} (hlen : entries.length = 50 * m)
    (h : entries.Perm (captures.filter fun r ↦ beforeTs.getD i64Max ≤ r.timestamp)) :
    Filled captures ⟨entries ++ listConn order captures beforeTs,
      (listConn order captures beforeTs).length = 50⟩ := by
  have hsplit := perm_filter_append captures (beforeTs.getD i64Max)
  refine ⟨fun hmore ↦ ?_, fun hmore last hlast ↦ ?_⟩
  · exact (h.append (perm_listConn_of_length_lt (of_decide_eq_false hmore))).trans hsplit
  · have hfull := of_decide_eq_true hmore
    obtain hnil | ⟨page, last', hpage⟩ :=
      List.eq_nil_or_concat' (listConn order captures beforeTs)
    · rw [hnil, List.length_nil] at hfull
      omega
    rw [hpage, ← List.append_assoc, List.getLast?_concat, Option.some_inj] at hlast
    subst hlast
    have hcount : captures.countP (fun r ↦ beforeTs.getD i64Max ≤ r.timestamp) = 50 * m := by
      rw [List.countP_eq_length_filter, ← h.length_eq, hlen]
    rw [hpage, List.length_append, List.length_singleton] at hfull
    have hmem : last' ∈ listConn order captures beforeTs := by simp [hpage]
    have hlt := timestamp_lt_of_mem_listConn hmem
    have hnewer : (captures.filter fun r ↦ beforeTs.getD i64Max ≤ r.timestamp).filter
        (fun r ↦ last'.timestamp ≤ r.timestamp) =
        captures.filter fun r ↦ beforeTs.getD i64Max ≤ r.timestamp := by
      refine List.filter_eq_self.mpr fun r hr ↦ ?_
      have := of_decide_eq_true (List.mem_filter.mp hr).2
      exact decide_eq_true (by omega)
    have hpart := perm_listConn_of_splitsNoTie hties hcount hpage hfull
    dsimp only
    rw [hpage]
    refine (h.append hpart).trans ?_
    have hfilter := hsplit.filter fun r ↦ decide (last'.timestamp ≤ r.timestamp)
    rwa [List.filter_append, hnewer] at hfilter

theorem filled_gridAfter (hts : ∀ r ∈ captures, r.timestamp < i64Max)
    (hties : SplitsNoTie captures) (n : ℕ) : Filled captures (gridAfter order captures n) := by
  induction n with
  | zero =>
    refine Filled.extend (m := 0) hties List.length_nil ?_
    have hnone : (captures.filter fun r ↦ (none : Option ℤ).getD i64Max ≤ r.timestamp) = [] := by
      refine List.filter_eq_nil_iff.mpr fun r hr hle ↦ ?_
      have := hts r hr
      have := of_decide_eq_true hle
      simp only [Option.getD_none] at this
      omega
    rw [hnone]
  | succ n ih =>
    rw [gridAfter_succ]
    cases hmore : (gridAfter order captures n).hasMore with
    | false => rwa [scroll_of_not_hasMore hmore]
    | true =>
      obtain ⟨last, hlast, -⟩ := (reached_gridAfter _ _ n).exists_last hmore
      rw [scroll_of_hasMore hmore hlast]
      exact Filled.extend (m := n + 1) hties (length_gridAfter n hmore) (ih.before hmore last hlast)

/-- **Paging is complete** if and only if no page ends between two captures of the same time. -/
theorem complete_iff (order : NewestFirst) (captures : List CaptureEntry)
    (hts : ∀ r ∈ captures, r.timestamp < i64Max) :
    (∃ n, Complete captures (gridAfter order captures n)) ↔ SplitsNoTie captures := by
  constructor
  · rintro ⟨n, h⟩
    exact (reached_gridAfter _ _ n).splitsNoTie h.perm
  · intro hties
    have hended := hasMore_gridAfter order captures
    exact ⟨captures.length, hended, (filled_gridAfter hts hties _).ended hended,
      (reached_gridAfter _ _ _).sorted⟩

end Grid

/-- A capture made at a given time. -/
def exampleCapture (id : String) (ts : ℤ) : CaptureEntry :=
  ⟨id, "/captures/" ++ id ++ ".png", ts, none, none, false, some 1, some 1, "image", none⟩

/-- A library of one capture. -/
theorem complete_iff_example :
    (∀ r ∈ [exampleCapture "0" 0], r.timestamp < i64Max) ∧
      ((∃ n, Complete [exampleCapture "0" 0] (gridAfter .stable [exampleCapture "0" 0] n)) ↔
        SplitsNoTie [exampleCapture "0" 0]) := by
  have hts : ∀ r ∈ [exampleCapture "0" 0], r.timestamp < i64Max := by
    intro r hr
    rw [List.mem_singleton.mp hr]
    decide
  exact ⟨hts, complete_iff _ _ hts⟩

/-- **Fifty-one captures of the same time**: the last one is never shown. -/
theorem not_complete :
    ¬ ∀ (order : NewestFirst) (captures : List CaptureEntry),
      (∀ r ∈ captures, r.timestamp < i64Max) →
        ∃ n, Complete captures (gridAfter order captures n) := by
  intro hall
  have hts : ∀ r ∈ (List.range 51).map fun i ↦ exampleCapture i.repr 0, r.timestamp < i64Max := by
    intro r hr
    obtain ⟨i, -, rfl⟩ := List.mem_map.mp hr
    exact (by decide : (0 : ℤ) < i64Max)
  obtain ⟨n, h⟩ := hall .stable _ hts
  refine (reached_gridAfter _ _ n).splitsNoTie h.perm 0 1 ⟨?_, ?_⟩
  · simp [List.countP_map, Function.comp_def, exampleCapture]
  · simp [List.countP_map, Function.comp_def, exampleCapture]

end WorkWithMe.Library
