import Mathlib.Data.List.Nodup
import WorkWithMe.Lib.Machine
import WorkWithMe.Library.Paging

/-!
# Loads that overlap

`LibraryGrid` loads the captures again when its query has changed, and loads one more page when its
bottom comes into sight.  A load without a cursor replaces the captures that are shown, one with a
cursor goes after them.  An answer is taken whatever has been asked for since then, and the cursor
is the time of the last capture that is shown at the moment.

A run is any sequence of edits and of scrolling, with the timer of the query and the answers in
between, from a library that stays as it is.

* `Right` is that the captures shown are the answer to the query.  They need not be so when nothing
  is under way any more: `not_right_of_quiet_loads`.
* `prefix_append_page`: the page after the last capture shown is what comes next in the library.
* `Coming` is the invariant of the runs in which what is shown is right: what is not yet will be.
* **`right_of_guarded_loads`** says in which runs what is shown is right once nothing is under way.
-/

set_option autoImplicit false

namespace WorkWithMe.Library

/-! ## The library -/

/-- A library that stays as it is. -/
structure LibraryBackend where
  /-- How `library_list` orders the rows. -/
  order : NewestFirst
  /-- The captures. -/
  captures : List CaptureEntry
  /-- `library_search`. -/
  librarySearch : String → List CaptureEntry

/-- A call of `load`. -/
structure Load where
  /-- The query. -/
  q : String
  /-- Only what is older. -/
  cursor : Option ℤ
  deriving DecidableEq

namespace LibraryBackend

/-- The answer to a call. -/
def answer (b : LibraryBackend) (l : Load) : List CaptureEntry :=
  if l.q ≠ "" then b.librarySearch l.q else listConn b.order b.captures l.cursor

/-- All the captures, the newest first. -/
def newestFirst (b : LibraryBackend) : List CaptureEntry := b.order.sort i64Max b.captures

/-- No two captures are of the same time, and none is of the greatest there is. -/
structure Distinct (b : LibraryBackend) : Prop where
  /-- The times are pairwise distinct. -/
  timestamps : b.captures.Pairwise fun r s ↦ r.timestamp ≠ s.timestamp
  /-- They are below the one that stands for no cursor. -/
  bounded : ∀ r ∈ b.captures, r.timestamp < i64Max

end LibraryBackend

/-! ## The grid -/

/-- The grid, and what it waits for. -/
structure LibraryGrid where
  /-- The query, as it is typed. -/
  query : String
  /-- The captures that are shown. -/
  entries : List CaptureEntry
  /-- Some are being loaded. -/
  loading : Bool
  /-- There may be older ones. -/
  hasMore : Bool
  /-- What went wrong. -/
  loadError : Option String
  /-- `debounceRef`: a timer is set, for the query. -/
  debounce : Bool
  /-- The calls of `load` that have not been answered. -/
  loads : List Load
  deriving DecidableEq

namespace LibraryGrid

/-- The grid is mounted, and the timer is set. -/
def init : LibraryGrid where
  query := ""
  entries := []
  loading := false
  hasMore := true
  loadError := none
  debounce := true
  loads := []

/-- What may happen. -/
inductive Action where
  /-- The query is edited. -/
  | setQuery (query : String)
  /-- The timer fires. -/
  | timeout
  /-- The bottom of the grid comes into sight. -/
  | intersecting
  /-- A call is answered. -/
  | loaded (l : Load)
  /-- A call fails. -/
  | failed (l : Load)

/-- `load`, up to its call. -/
def load (w : LibraryGrid) (q : String) (cursor : Option ℤ) : LibraryGrid :=
  { w with loading := true, loadError := none, loads := w.loads ++ [⟨q, cursor⟩] }

/-- What the observer of the bottom does. -/
def intersect (w : LibraryGrid) : LibraryGrid :=
  match w.entries.getLast? with
  | some last =>
    if w.hasMore = true ∧ w.loading = false ∧ w.query = "" then w.load "" (some last.timestamp)
    else w
  | none => w

/-- A call is under way no more. -/
def settle (w : LibraryGrid) (l : Load) : LibraryGrid :=
  { w with loading := false, loads := w.loads.erase l }

/-- One thing after another. -/
def step (b : LibraryBackend) (w : LibraryGrid) : Action → Option LibraryGrid
  | .setQuery query => some (if query = w.query then w else { w with query, debounce := true })
  | .timeout =>
    if w.debounce = true then
      some ({ w with debounce := false, hasMore := true }.load w.query none)
    else none
  | .intersecting => some w.intersect
  | .loaded l =>
    if l ∈ w.loads then
      some { w.settle l with
        entries := if l.cursor.isSome then w.entries ++ b.answer l else b.answer l
        hasMore := (b.answer l).length = 50 }
    else none
  | .failed l =>
    if l ∈ w.loads then some { w.settle l with loadError := some "Failed to load captures." }
    else none

/-! ## The law -/

/-- **What is shown is right.** -/
structure Right (b : LibraryBackend) (w : LibraryGrid) : Prop where
  /-- To a query, it is what a search has found. -/
  search : w.query ≠ "" → w.entries = b.librarySearch w.query
  /-- Without a query, the newest captures. -/
  newest : w.query = "" → w.entries <+: b.newestFirst
  /-- None of these is shown twice. -/
  nodup : w.query = "" → w.entries.Nodup

/-- Nothing is under way. -/
structure Quiet (w : LibraryGrid) : Prop where
  /-- The timer is not set. -/
  debounce : w.debounce = false
  /-- No call is under way. -/
  loads : w.loads = []

/-- The captures for the query are being loaded, or its timer is set. -/
def Awaited (w : LibraryGrid) : Prop := w.debounce = true ∨ ⟨w.query, none⟩ ∈ w.loads

/-- The page with this cursor goes after the captures that are shown: it is empty, or the cursor is
where they end. -/
def Follows (b : LibraryBackend) (w : LibraryGrid) (cursor : ℤ) : Prop :=
  (∀ r ∈ b.captures, cursor ≤ r.timestamp) ∨
    w.query = "" ∧ ∃ last, w.entries.getLast? = some last ∧ last.timestamp = cursor

/-- **What may be done**: an answer that is for another query than the one there is now, or a page
that does not go after the captures shown, comes where those for the query are still to come; and
where these fail to be loaded, they will be loaded once more. -/
def Allowed (b : LibraryBackend) (w : LibraryGrid) : Action → Prop
  | .loaded ⟨q, none⟩ => q = w.query ∨ (w.settle ⟨q, none⟩).Awaited
  | .loaded ⟨q, some cursor⟩ => Follows b w cursor ∨ (w.settle ⟨q, some cursor⟩).Awaited
  | .failed l => l = ⟨w.query, none⟩ → (w.settle l).Awaited
  | _ => True

end LibraryGrid

/-! ## One page -/

namespace LibraryBackend

variable {b : LibraryBackend}

/-- A capture is known by its time. -/
theorem Distinct.eq_of_timestamp_eq (h : b.Distinct) {r s : CaptureEntry} (hr : r ∈ b.captures)
    (hs : s ∈ b.captures) (heq : r.timestamp = s.timestamp) : r = s :=
  List.inj_on_of_nodup_map (List.pairwise_map.mpr h.timestamps) hr hs heq

theorem mem_newestFirst {r : CaptureEntry} : r ∈ b.newestFirst ↔ r ∈ b.captures :=
  (b.order.perm _ _).mem_iff

theorem sorted_newestFirst (h : b.Distinct) :
    b.newestFirst.Pairwise fun r s ↦ s.timestamp < r.timestamp := by
  have hne : b.newestFirst.Pairwise fun r s ↦ r.timestamp ≠ s.timestamp :=
    (b.order.perm _ _).symm.pairwise h.timestamps Ne.symm
  exact (b.order.sorted i64Max b.captures).imp₂ (fun _ _ hle hrs ↦ lt_of_le_of_ne hle hrs.symm) hne

theorem nodup_newestFirst (h : b.Distinct) : b.newestFirst.Nodup :=
  (sorted_newestFirst h).imp fun hlt heq ↦ (heq ▸ hlt).false

/-- A page is the beginning of what is older than the cursor. -/
theorem listConn_eq_take (h : b.Distinct) (beforeTs : Option ℤ) :
    listConn b.order b.captures beforeTs =
      (b.newestFirst.filter fun r ↦ r.timestamp < beforeTs.getD i64Max).take 50 := by
  refine congrArg (List.take 50) (List.Perm.eq_of_pairwise (fun r s hr hs hle hge ↦ ?_)
    (b.order.sorted _ _) ((b.order.sorted _ _).sublist List.filter_sublist)
    ((b.order.perm _ _).trans ((b.order.perm _ _).symm.filter _)))
  have hr := (List.mem_filter.mp ((b.order.perm _ _).mem_iff.mp hr)).1
  have hs := mem_newestFirst.mp (List.mem_filter.mp hs).1
  exact h.eq_of_timestamp_eq hr hs (Int.le_antisymm hge hle)

/-- The first page. -/
theorem listConn_none (h : b.Distinct) :
    listConn b.order b.captures none = b.newestFirst.take 50 := by
  rw [listConn_eq_take h, List.filter_eq_self.mpr]
  intro r hr
  exact decide_eq_true (h.bounded r (mem_newestFirst.mp hr))

/-- **The page after the last capture that is shown** is what comes next. -/
theorem prefix_append_page (h : b.Distinct) {entries : List CaptureEntry} {last : CaptureEntry}
    (hentries : entries <+: b.newestFirst) (hlast : entries.getLast? = some last) :
    entries ++ listConn b.order b.captures (some last.timestamp) <+: b.newestFirst := by
  obtain ⟨shown, rfl⟩ := List.getLast?_eq_some_iff.mp hlast
  obtain ⟨rest, hrest⟩ := hentries
  have hsorted := sorted_newestFirst h
  rw [← hrest, List.pairwise_append] at hsorted
  obtain ⟨hshown, -, holder⟩ := hsorted
  have hnone : (shown ++ [last]).filter (fun r ↦ r.timestamp < last.timestamp) = [] := by
    refine List.filter_eq_nil_iff.mpr fun r hr hlt ↦ ?_
    have hlt : r.timestamp < last.timestamp := of_decide_eq_true hlt
    rcases List.mem_append.mp hr with hr | hr
    · have := (List.pairwise_append.mp hshown).2.2 r hr last List.mem_cons_self
      omega
    · rw [List.mem_singleton.mp hr] at hlt
      omega
  have hall : rest.filter (fun r ↦ r.timestamp < last.timestamp) = rest :=
    List.filter_eq_self.mpr fun r hr ↦
      decide_eq_true (holder last (List.mem_append_right _ List.mem_cons_self) r hr)
  rw [listConn_eq_take h, Option.getD_some, ← hrest, List.filter_append, hnone, hall,
    List.nil_append, List.prefix_append_right_inj]
  exact List.take_prefix 50 rest

/-- Nothing is older. -/
theorem listConn_eq_nil {cursor : ℤ} (h : ∀ r ∈ b.captures, cursor ≤ r.timestamp) :
    listConn b.order b.captures (some cursor) = [] := by
  refine List.eq_nil_iff_forall_not_mem.mpr fun r hr ↦ ?_
  have hlt := timestamp_lt_of_mem_listConn hr
  have hr := (List.mem_filter.mp ((subperm_listConn (some cursor)).subset hr)).1
  have hle := h r hr
  rw [Option.getD_some] at hlt
  omega

end LibraryBackend

/-! ## The invariant -/

namespace LibraryGrid

open LibraryBackend

/-- **What is not right will be.** -/
structure Coming (b : LibraryBackend) (w : LibraryGrid) : Prop where
  /-- What is shown is right, or the captures for the query are to come. -/
  entries : Right b w ∨ w.Awaited
  /-- A page is asked for without a query. -/
  paged : ∀ l ∈ w.loads, l.cursor.isSome → l.q = ""

section Step

variable {b : LibraryBackend} {w v : LibraryGrid} {a : Action}

theorem coming_init (b : LibraryBackend) : Coming b init where
  entries := .inr (.inl rfl)
  paged _ h := by cases h

theorem Coming.right (h : Coming b w) (hquiet : Quiet w) : Right b w := by
  refine h.entries.resolve_right fun hawaited ↦ ?_
  rcases hawaited with hdebounce | hload
  · rw [hquiet.debounce] at hdebounce
    cases hdebounce
  · rw [hquiet.loads] at hload
    cases hload

/-- A call more. -/
theorem Coming.load {q : String} {cursor : Option ℤ} (h : Coming b w)
    (hq : cursor.isSome → q = "") : Coming b (w.load q cursor) where
  entries := h.entries.imp (fun hright ↦ ⟨hright.1, hright.2, hright.3⟩) fun hawaited ↦
    hawaited.imp_right (List.mem_append_left _)
  paged l hl hcursor := by
    rcases List.mem_append.mp hl with hl | hl
    · exact h.paged l hl hcursor
    · rw [List.mem_singleton.mp hl] at hcursor ⊢
      exact hq hcursor

theorem Coming.intersect (h : Coming b w) : Coming b w.intersect := by
  rw [LibraryGrid.intersect]
  split
  · split
    · exact h.load fun _ ↦ rfl
    · exact h
  · exact h

/-- The call for the query stays when another one is settled. -/
theorem Awaited.settle {l : Load} (h : w.Awaited) (hne : l ≠ ⟨w.query, none⟩) :
    (w.settle l).Awaited :=
  h.imp_right (List.mem_erase_of_ne hne.symm).mpr

/-- The captures for the query are right. -/
theorem right_of_answer (hb : b.Distinct) (hentries : w.entries = b.answer ⟨w.query, none⟩) :
    Right b w := by
  have hnewest : w.query = "" → w.entries <+: b.newestFirst := by
    intro hquery
    rw [hentries, LibraryBackend.answer, if_neg (not_not_intro hquery), listConn_none hb]
    exact List.take_prefix 50 _
  refine ⟨fun hquery ↦ ?_, hnewest, fun hquery ↦ ?_⟩
  · rw [hentries, LibraryBackend.answer, if_pos hquery]
  · exact (nodup_newestFirst hb).sublist (hnewest hquery).sublist

/-- What is right stays so with a page that goes after it. -/
theorem Right.append (h : Right b w) (hb : b.Distinct) {cursor : ℤ} (hfollows : Follows b w cursor)
    (hmore : Bool) :
    Right b { w.settle ⟨"", some cursor⟩ with
      entries := w.entries ++ b.answer ⟨"", some cursor⟩
      hasMore := hmore } := by
  rw [LibraryBackend.answer, if_neg (not_not_intro rfl)]
  rcases hfollows with hnone | ⟨hquery, last, hlast, rfl⟩
  · rw [listConn_eq_nil hnone, List.append_nil]
    exact ⟨h.search, h.newest, h.nodup⟩
  · have hprefix := prefix_append_page hb (h.newest hquery) hlast
    exact ⟨fun hne ↦ absurd hquery hne, fun _ ↦ hprefix,
      fun _ ↦ (nodup_newestFirst hb).sublist hprefix.sublist⟩

/-- Captures arrive. -/
theorem Coming.loaded (h : Coming b w) (hb : b.Distinct) {l : Load} (hl : l ∈ w.loads)
    (hallowed : Allowed b w (.loaded l)) :
    Coming b { w.settle l with
      entries := if l.cursor.isSome then w.entries ++ b.answer l else b.answer l
      hasMore := (b.answer l).length = 50 } := by
  refine ⟨?_, fun m hm ↦ h.paged m (List.mem_of_mem_erase hm)⟩
  obtain ⟨q, cursor⟩ := l
  cases cursor with
  | none =>
    refine hallowed.imp (fun hq ↦ ?_) fun hawaited ↦ hawaited
    subst hq
    exact right_of_answer hb rfl
  | some cursor =>
    obtain rfl : q = "" := h.paged _ hl rfl
    rcases hallowed with hfollows | hawaited
    · exact h.entries.imp (fun hright ↦ hright.append hb hfollows _) fun hawaited ↦
        hawaited.settle (by simp)
    · exact .inr hawaited

/-- **One step**: what is not right will be, after each step that may be taken. -/
theorem Coming.step (h : Coming b w) (hb : b.Distinct) (hallowed : Allowed b w a)
    (hstep : step b w a = some v) : Coming b v := by
  cases a with
  | setQuery query =>
    obtain rfl := Option.some.inj hstep
    split
    · exact h
    · exact ⟨.inr (.inl rfl), h.paged⟩
  | timeout =>
    rw [LibraryGrid.step, Option.ite_none_right_eq_some, Option.some_inj] at hstep
    obtain ⟨-, rfl⟩ := hstep
    refine ⟨.inr (.inr (List.mem_append_right _ List.mem_cons_self)), fun l hl hcursor ↦ ?_⟩
    rcases List.mem_append.mp hl with hl | hl
    · exact h.paged l hl hcursor
    · rw [List.mem_singleton.mp hl] at hcursor
      cases hcursor
  | intersecting =>
    obtain rfl := Option.some.inj hstep
    exact h.intersect
  | loaded l =>
    rw [LibraryGrid.step, Option.ite_none_right_eq_some, Option.some_inj] at hstep
    obtain ⟨hl, rfl⟩ := hstep
    exact h.loaded hb hl hallowed
  | failed l =>
    rw [LibraryGrid.step, Option.ite_none_right_eq_some, Option.some_inj] at hstep
    obtain ⟨hl, rfl⟩ := hstep
    refine ⟨?_, fun m hm ↦ h.paged m (List.mem_of_mem_erase hm)⟩
    have hkept : Right b w ∨ (w.settle l).Awaited := by
      by_cases hquery : l = ⟨w.query, none⟩
      · exact .inr (hallowed hquery)
      · exact h.entries.imp_right fun hawaited ↦ hawaited.settle hquery
    exact hkept.imp_left fun hright ↦ ⟨hright.1, hright.2, hright.3⟩

end Step

/-! ## Runs -/

/-- **What is shown is right once nothing is under way**, all along a run in which every step is
allowed. -/
theorem right_of_guarded_loads (b : LibraryBackend) (hb : b.Distinct) (as : List Action)
    (hallowed : Machine.Guarded (step b) (Allowed b) init as) :
    ∀ pre post w, as = pre ++ post → Machine.exec (step b) init pre = some w → Quiet w →
      Right b w := by
  rintro pre post w rfl hw hquiet
  exact (Machine.inv_of_guarded (fun _ _ _ h hG ↦ h.step hb hG) (coming_init b)
    (Machine.guarded_append.mp hallowed).1 hw).right hquiet

/-! ## A query that is cleared -/

/-- A picture. -/
def exampleCapture (id : String) (timestamp : ℤ) : CaptureEntry :=
  ⟨id, id ++ ".png", timestamp, none, none, false, none, none, "image", none⟩

/-- A library of two pictures, of which every search finds the older one. -/
def exampleLibrary : LibraryBackend where
  order := NewestFirst.stable
  captures := [exampleCapture "a" 1, exampleCapture "b" 2]
  librarySearch _ := [exampleCapture "a" 1]

/-- The grid is mounted, a query is made, and cleared. -/
def clearedQuery : List Action :=
  [.timeout, .loaded ⟨"", none⟩, .setQuery "a", .timeout, .setQuery "", .timeout]

theorem right_of_guarded_loads_example :
    ∃ s, Machine.exec (step exampleLibrary) init
      (clearedQuery ++ [.loaded ⟨"a", none⟩, .loaded ⟨"", none⟩]) = some s ∧
        Right exampleLibrary s := by
  obtain ⟨s, hrun, hquiet⟩ : ∃ s, Machine.exec (step exampleLibrary) init
      (clearedQuery ++ [.loaded ⟨"a", none⟩, .loaded ⟨"", none⟩]) = some s ∧ Quiet s :=
    ⟨_, rfl, rfl, rfl⟩
  have hdistinct : exampleLibrary.Distinct := ⟨by decide, by decide⟩
  have hallowed : Machine.Guarded (step exampleLibrary) (Allowed exampleLibrary) init
      (clearedQuery ++ [.loaded ⟨"a", none⟩, .loaded ⟨"", none⟩]) :=
    .cons rfl trivial (.cons rfl (.inl rfl) (.cons rfl trivial (.cons rfl trivial (.cons rfl trivial
      (.cons rfl trivial (.cons rfl (.inr (.inr (by decide))) (.cons rfl (.inl rfl) trivial)))))))
  exact ⟨s, hrun, right_of_guarded_loads exampleLibrary hdistinct _ hallowed _ [] s
    (List.append_nil _).symm hrun hquiet⟩

/-- **What the search has found arrives last**, and stays. -/
theorem not_right_of_quiet_loads :
    ∃ s, exampleLibrary.Distinct ∧ Machine.exec (step exampleLibrary) init
      (clearedQuery ++ [.loaded ⟨"", none⟩, .loaded ⟨"a", none⟩]) = some s ∧
        Quiet s ∧ ¬ Right exampleLibrary s := by
  refine ⟨_, ⟨by decide, by decide⟩, rfl, ⟨rfl, rfl⟩, fun h ↦ ?_⟩
  have hnewest := h.newest rfl
  exact absurd hnewest (by decide)

end LibraryGrid

end WorkWithMe.Library
