import WorkWithMe.Voice.Db

/-!
# The sweep at start-up

When the app starts it marks the sessions that a crash left unfinished.  It finds them in
`list_sessions`, which is the listing of the user interface: it has the 200 sessions that began
last.

* `startUpSweep` is the loop of `run`, and `sessions_startUpSweep` says what it writes.
* `recovered_iff` says of which databases it leaves nothing unfinished: of those whose unfinished
  sessions are all among the first 200 of the listing.  With no more than 200 sessions that is so
  whatever the listing (`recovered_of_length_le`).
-/

set_option autoImplicit false

namespace WorkWithMe.Voice

/-! ## The sweep -/

/-- The session is being recorded or transcribed, or was when the app ended. -/
def VoiceSession.unfinished (s : VoiceSession) : Bool :=
  s.status == "recording" || s.status == "processing"

/-- The loop of the sweep, with the errors of `update_session_status`, which it ignores. -/
def sweepLoop (faults : String → Option String) : List VoiceSession → VoiceDb → VoiceDb
  | [], db => db
  | s :: rest, db =>
    sweepLoop faults rest (if s.unfinished then
      Statement.settle db (updateSessionStatus s.id "error" (faults s.id) db) else db)

/-- The sweep of `run`, where the engine sorts the sessions into `rows`. -/
def startUpSweep (fault : Option QueryFault) (faults : String → Option String)
    (rows : List VoiceSession) (db : VoiceDb) : VoiceDb :=
  match listSessions fault rows with
  | .ok sessions => sweepLoop faults sessions db
  | .error _ => db

/-- A row that has been given up. -/
def VoiceSession.failed (s : VoiceSession) : VoiceSession := { s with status := "error" }

/-- What the sweep is for: nothing is left unfinished, what was is marked, and everything else is
as it was. -/
structure Recovered (db db' : VoiceDb) : Prop where
  /-- No session is unfinished. -/
  finished : ∀ s ∈ db'.sessions, s.unfinished = false
  /-- The unfinished ones have failed, and the other rows are the same. -/
  sessions : db'.sessions = db.sessions.map fun s ↦ if s.unfinished then s.failed else s
  /-- The other tables are the same. -/
  others : db'.segments = db.segments ∧ db'.notes = db.notes ∧ db'.fts = db.fts

/-! ## What it writes -/

section Sweep

variable {db : VoiceDb} {rows : List VoiceSession} {s : VoiceSession}

@[simp] theorem VoiceSession.unfinished_failed : s.failed.unfinished = false := by
  simp [VoiceSession.failed, VoiceSession.unfinished]

/-- With nothing going wrong the loop marks the rows with the ids of the unfinished ones. -/
theorem sweepLoop_eq (db : VoiceDb) (ss : List VoiceSession) :
    sweepLoop (fun _ ↦ none) ss db = { db with
      sessions := db.sessions.map fun r ↦
        if r.id ∈ (ss.filter VoiceSession.unfinished).map VoiceSession.id
        then r.failed else r } := by
  induction ss generalizing db with
  | nil => simp [sweepLoop]
  | cons s ss ih =>
    rw [sweepLoop, ih]
    by_cases hs : s.unfinished = true
    · have hok : updateSessionStatus s.id "error" none db = .ok { db with
          sessions := Table.updateAt VoiceSession.id s.id VoiceSession.failed db.sessions } :=
        updateSessionStatus_eq_ok.mpr ⟨rfl, rfl⟩
      rw [if_pos hs, hok, Statement.settle_ok, List.filter_cons_of_pos hs, List.map_cons]
      congr 1
      rw [Table.updateAt, List.map_map]
      refine List.map_congr_left fun r _ ↦ ?_
      simp only [Function.comp_apply, List.mem_cons]
      by_cases hr : r.id = s.id
      · rw [if_pos hr, if_pos (Or.inl hr)]
        split <;> rfl
      · simp only [hr, false_or, if_false]
    · rw [if_neg hs, List.filter_cons_of_neg hs]

theorem startUpSweep_eq (db : VoiceDb) (rows : List VoiceSession) :
    startUpSweep none (fun _ ↦ none) rows db = { db with
      sessions := db.sessions.map fun r ↦
        if r.id ∈ ((rows.take 200).filter VoiceSession.unfinished).map VoiceSession.id
        then r.failed else r } :=
  sweepLoop_eq db (rows.take 200)

/-- In a table with a primary key, the rows that are marked are the unfinished ones among those
that are listed. -/
theorem mem_swept_iff (hkey : (db.sessions.map VoiceSession.id).Nodup)
    (hrows : Listing rows db.sessions) (hs : s ∈ db.sessions) :
    s.id ∈ ((rows.take 200).filter VoiceSession.unfinished).map VoiceSession.id ↔
      s ∈ rows.take 200 ∧ s.unfinished = true := by
  constructor
  · intro h
    obtain ⟨r, hr, hid⟩ := List.mem_map.mp h
    obtain ⟨hlisted, hun⟩ := List.mem_filter.mp hr
    have hmem : r ∈ db.sessions := hrows.perm.subset (List.mem_of_mem_take hlisted)
    obtain rfl : r = s := List.inj_on_of_nodup_map hkey hmem hs hid
    exact ⟨hlisted, hun⟩
  · rintro ⟨hlisted, hun⟩
    exact List.mem_map_of_mem (List.mem_filter.mpr ⟨hlisted, hun⟩)

/-- Where the sweep leaves nothing unfinished, it has seen all that was. -/
theorem Recovered.mem_take (hkey : (db.sessions.map VoiceSession.id).Nodup)
    (hrows : Listing rows db.sessions)
    (h : Recovered db (startUpSweep none (fun _ ↦ none) rows db)) (hs : s ∈ db.sessions)
    (hun : s.unfinished = true) : s ∈ rows.take 200 := by
  rw [startUpSweep_eq] at h
  by_contra hout
  have hkept : s.id ∉ ((rows.take 200).filter VoiceSession.unfinished).map VoiceSession.id :=
    fun hid ↦ hout ((mem_swept_iff hkey hrows hs).mp hid).1
  have hfin := h.finished s (List.mem_map.mpr ⟨s, hs, if_neg hkept⟩)
  rw [hun] at hfin
  cases hfin

/-- Where the sweep sees all that is unfinished, it leaves nothing so. -/
theorem recovered_of_forall (hkey : (db.sessions.map VoiceSession.id).Nodup)
    (hrows : Listing rows db.sessions)
    (hall : ∀ s ∈ db.sessions, s.unfinished = true → s ∈ rows.take 200) :
    Recovered db (startUpSweep none (fun _ ↦ none) rows db) := by
  rw [startUpSweep_eq]
  have hrow : ∀ s ∈ db.sessions,
      (if s.id ∈ ((rows.take 200).filter VoiceSession.unfinished).map VoiceSession.id
        then s.failed else s) = if s.unfinished then s.failed else s := by
    intro s hs
    refine if_congr ?_ rfl rfl
    rw [mem_swept_iff hkey hrows hs]
    exact ⟨And.right, fun hun ↦ ⟨hall s hs hun, hun⟩⟩
  have hmap := List.map_congr_left hrow
  refine ⟨?_, hmap, rfl, rfl, rfl⟩
  intro s hs
  rw [hmap] at hs
  obtain ⟨r, -, rfl⟩ := List.mem_map.mp hs
  by_cases hun : r.unfinished = true
  · rw [if_pos hun, VoiceSession.unfinished_failed]
  · rw [if_neg hun, Bool.eq_false_iff]
    exact hun

/-- **The sweep does what it is for exactly if all unfinished sessions are among the first 200 of
the listing.** -/
theorem recovered_iff (db : VoiceDb) (rows : List VoiceSession)
    (hkey : (db.sessions.map VoiceSession.id).Nodup) (hrows : Listing rows db.sessions) :
    Recovered db (startUpSweep none (fun _ ↦ none) rows db) ↔
      ∀ s ∈ db.sessions, s.unfinished = true → s ∈ rows.take 200 :=
  ⟨fun h _ hs hun ↦ h.mem_take hkey hrows hs hun, recovered_of_forall hkey hrows⟩

/-- With no more than 200 sessions nothing is left unfinished. -/
theorem recovered_of_length_le (hkey : (db.sessions.map VoiceSession.id).Nodup)
    (hrows : Listing rows db.sessions) (hlen : db.sessions.length ≤ 200) :
    Recovered db (startUpSweep none (fun _ ↦ none) rows db) := by
  refine recovered_of_forall hkey hrows fun s hs _ ↦ ?_
  rw [List.take_of_length_le (hrows.perm.length_eq ▸ hlen)]
  exact hrows.perm.mem_iff.mpr hs

end Sweep

/-! ## A session that is too far back -/

/-- A finished session, the `n`-th. -/
def finishedSession (n : ℕ) : VoiceSession :=
  ⟨.ofList (List.replicate (n + 1) 'm'), "", "meeting", "complete", 1, some 2, some 1, 1⟩

/-- A session that was being recorded when the app ended. -/
def staleSession : VoiceSession := ⟨"", "", "meeting", "recording", 0, none, none, 0⟩

/-- A database with a stale session and `n` later ones. -/
def staleDb (n : ℕ) : VoiceDb :=
  { VoiceDb.empty with sessions := (List.range n).map finishedSession ++ [staleSession] }

theorem finishedSession_injective {n m : ℕ}
    (h : (finishedSession n).id = (finishedSession m).id) : n = m := by
  have hlist := congrArg (List.length ∘ String.toList) h
  simpa [finishedSession] using hlist

theorem nodup_staleDb (n : ℕ) : ((staleDb n).sessions.map VoiceSession.id).Nodup := by
  rw [staleDb, List.map_append, List.map_map, List.nodup_append]
  refine ⟨List.Nodup.map (fun _ _ h ↦ finishedSession_injective h) List.nodup_range, by simp, ?_⟩
  rintro _ hn _ hs rfl
  obtain ⟨m, -, hm⟩ := List.mem_map.mp hn
  have hid : (finishedSession m).id = "" := hm.trans (by simpa [staleSession] using hs)
  have hlen := congrArg (List.length ∘ String.toList) hid
  simp [finishedSession] at hlen

theorem listing_staleDb (n : ℕ) : Listing (staleDb n).sessions (staleDb n).sessions where
  perm := .refl _
  sorted := by
    rw [staleDb, List.pairwise_append]
    refine ⟨?_, List.pairwise_singleton _ _, ?_⟩
    · rw [List.pairwise_map]
      exact List.pairwise_of_forall fun _ _ ↦ Int.le_refl _
    · intro a ha b hb
      obtain ⟨m, -, rfl⟩ := List.mem_map.mp ha
      rw [List.mem_singleton.mp hb]
      show (0 : ℤ) ≤ 1
      decide

theorem recovered_iff_example :
    Recovered (staleDb 2) (startUpSweep none (fun _ ↦ none) (staleDb 2).sessions (staleDb 2)) :=
  (recovered_iff (staleDb 2) (staleDb 2).sessions (nodup_staleDb 2) (listing_staleDb 2)).mpr
    (by decide)

/-- **The sweep overlooks a session with 200 later ones.** -/
theorem exists_not_recovered :
    ∃ db rows, (db.sessions.map VoiceSession.id).Nodup ∧ Listing rows db.sessions ∧
      ¬ Recovered db (startUpSweep none (fun _ ↦ none) rows db) := by
  refine ⟨staleDb 200, (staleDb 200).sessions, nodup_staleDb 200, listing_staleDb 200, fun h ↦ ?_⟩
  have hlisted := h.mem_take (s := staleSession) (nodup_staleDb 200) (listing_staleDb 200)
    (List.mem_append_right _ (List.mem_singleton_self _)) rfl
  -- the first 200 rows are the finished ones
  have htake : (staleDb 200).sessions.take 200 = (List.range 200).map finishedSession :=
    List.take_left' (by simp)
  rw [htake] at hlisted
  obtain ⟨m, -, hm⟩ := List.mem_map.mp hlisted
  cases congrArg VoiceSession.startedAt hm

end WorkWithMe.Voice
