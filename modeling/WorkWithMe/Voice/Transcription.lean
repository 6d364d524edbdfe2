import WorkWithMe.Lib.F64
import WorkWithMe.Lib.Lists
import WorkWithMe.Lib.Rust
import WorkWithMe.Voice.Db

/-!
# The transcription of a meeting

`runTranscription` decodes what was recorded, cuts the samples into pieces of half a minute, has the
engine transcribe one after the other and stores what comes out.  When a piece begins and ends is
computed from its number and its length by way of a floating-point number; `startMs` and `endMs` do
it the way the source does.

* `intervals_eq` has the times of the pieces as those between successive points of one sequence,
  `boundary`, which is monotone.  All that is said about them comes from there.
* `runTranscription_spec` says what a run leaves in the database: some of the pieces, in their
  order.
* `timeline` puts the two together.  The end of the last piece is the length of the recording as
  long as that many samples are a floating-point number, or are rounded within the same millisecond:
  `timeline_counterexample` has the first number of samples at which this is not so.
-/

set_option autoImplicit false

namespace WorkWithMe.Voice

/-! ## The pieces and their times -/

/-- `CHUNK_SAMPLES`: half a minute. -/
def chunkSamples : ℕ := 480000

/-- `(x as f64 * ms_per_sample) as i64`.  A sample is a sixteenth of a millisecond, which as a
floating-point number is exact, and so is the product with it; the fraction is cut off. -/
def toMs (x : ℕ) : ℤ := (Rust.asF64 x / 16 : ℕ)

/-- `start_ms` of the piece with a number. -/
def startMs (chunkIdx : ℕ) : ℤ := toMs (chunkIdx * chunkSamples)

/-- `end_ms` of the piece. -/
def endMs (chunkIdx : ℕ) (chunk : List UInt32) : ℤ :=
  toMs (chunkIdx * chunkSamples + chunk.length)

/-- The samples in the output of ffmpeg: four bytes each, and what is left over is dropped. -/
def decodeSamples : List UInt8 → List UInt32
  | b₀ :: b₁ :: b₂ :: b₃ :: rest =>
    (b₀.toUInt32 ||| b₁.toUInt32 <<< 8 ||| b₂.toUInt32 <<< 16 ||| b₃.toUInt32 <<< 24) ::
      decodeSamples rest
  | _ => []

/-- The pieces, and the number of each. -/
def numberedChunks (samples : List UInt32) : List (List UInt32 × ℕ) :=
  (Lists.chunks chunkSamples samples).zipIdx

/-- When a piece begins and ends. -/
def interval (p : List UInt32 × ℕ) : ℤ × ℤ := (startMs p.2, endMs p.2 p.1)

/-- When the pieces begin and end. -/
def intervals (samples : List UInt32) : List (ℤ × ℤ) := (numberedChunks samples).map interval

/-! ## The run -/

/-- What comes of a piece: what the engine says, and what the insertion of the segment meets. -/
structure ChunkOutcome where
  /-- What `transcribe` returns. -/
  text : Except String String
  /-- The id the segment gets. -/
  uuid : String
  /-- The clock. -/
  now : ℤ
  /-- What goes wrong in `insert_segment`. -/
  faults : TxFaults

/-- What a run meets. -/
structure Transcriber where
  /-- The path of the recording is UTF-8. -/
  utf8 : Bool
  /-- What ffmpeg writes, unless it does not start. -/
  decode : Except String (List UInt8)
  /-- The engine is there. -/
  engine : Bool
  /-- What comes of each piece. -/
  outcome : ℕ → ChunkOutcome

/-- The samples there are. -/
def Transcriber.samples (env : Transcriber) : List UInt32 :=
  match env.decode with
  | .ok stdout => decodeSamples stdout
  | .error _ => []

/-- What a run changes. -/
structure Progress where
  /-- The database. -/
  db : VoiceDb
  /-- The events `meeting-transcript-segment`: text, beginning and end. -/
  emitted : List (String × ℤ × ℤ)

/-- One round of the loop.  A segment that is not inserted is announced all the same. -/
def transcribeChunk (outcome : ℕ → ChunkOutcome) (sessionId : String) (progress : Progress)
    (p : List UInt32 × ℕ) : Progress :=
  let o := outcome p.2
  match o.text with
  | .ok text =>
    if Rust.trim text = "" then progress
    else
      { db := Statement.settle progress.db (insertSegment sessionId (Rust.trim text) (startMs p.2)
          (endMs p.2 p.1) o.uuid o.now o.faults progress.db)
        emitted := progress.emitted ++ [(Rust.trim text, startMs p.2, endMs p.2 p.1)] }
  | .error _ => progress

/-- `run_transcription`. -/
def runTranscription (env : Transcriber) (sessionId : String) (progress : Progress) :
    Except String Unit × Progress :=
  if env.utf8 then
    match env.decode with
    | .error e => (.error ("ffmpeg decode failed: " ++ e), progress)
    | .ok stdout =>
      if decodeSamples stdout = [] then (.ok (), progress)
      else if env.engine then
        (.ok (), (numberedChunks (decodeSamples stdout)).foldl
          (transcribeChunk env.outcome sessionId) progress)
      else (.error "Whisper engine not available (model failed to load)", progress)
  else (.error "invalid WAV path (non-UTF-8)", progress)

/-! ## The times -/

theorem toMs_mono {m n : ℕ} (h : m ≤ n) : toMs m ≤ toMs n :=
  Int.ofNat_le.mpr (Nat.div_le_div_right (Rust.asF64_mono h))

/-- Where the pieces of a recording meet. -/
def boundary (n i : ℕ) : ℤ := toMs (min (i * chunkSamples) n)

theorem boundary_mono (n : ℕ) {i j : ℕ} (h : i ≤ j) : boundary n i ≤ boundary n j := by
  have hle : i * chunkSamples ≤ j * chunkSamples := Nat.mul_le_mul_right _ h
  exact toMs_mono (by omega)

/-- How many pieces there are. -/
def chunkCount (n : ℕ) : ℕ := (n + chunkSamples - 1) / chunkSamples

theorem numberedChunks_eq (samples : List UInt32) :
    numberedChunks samples = (List.range (chunkCount samples.length)).map fun i ↦
      ((samples.drop (i * chunkSamples)).take chunkSamples, i) :=
  Lists.zipIdx_chunks chunkSamples samples

/-- A piece lies between two boundaries. -/
theorem interval_eq {samples : List UInt32} {i : ℕ} (hi : i < chunkCount samples.length) :
    interval ((samples.drop (i * chunkSamples)).take chunkSamples, i) =
      (boundary samples.length i, boundary samples.length (i + 1)) := by
  have hlt : i * chunkSamples < samples.length := Lists.mul_lt_of_lt_chunks (by decide) hi
  have hend : i * chunkSamples + min chunkSamples (samples.length - i * chunkSamples) =
      min ((i + 1) * chunkSamples) samples.length := by
    rw [Nat.succ_mul]
    omega
  rw [interval, startMs, endMs, boundary, boundary, List.length_take, List.length_drop, hend,
    min_eq_left hlt.le]

/-- **The pieces lie between successive boundaries.** -/
theorem intervals_eq (samples : List UInt32) :
    intervals samples = (List.range (chunkCount samples.length)).map fun i ↦
      (boundary samples.length i, boundary samples.length (i + 1)) := by
  rw [intervals, numberedChunks_eq, List.map_map]
  exact List.map_congr_left fun i hi ↦ interval_eq (List.mem_range.mp hi)

/-- Where one piece ends the next one begins. -/
theorem isChain_intervals (samples : List UInt32) :
    (intervals samples).IsChain fun I J ↦ I.2 = J.1 := by
  rw [intervals_eq, List.isChain_map]
  refine List.isChain_iff_getElem.mpr fun i hi ↦ ?_
  rw [List.getElem_range, List.getElem_range]

/-- What lies between the first boundary and the last lies between two successive ones. -/
theorem exists_boundary_iff (n k : ℕ) (ms : ℤ) :
    (∃ i < k, boundary n i ≤ ms ∧ ms < boundary n (i + 1)) ↔
      boundary n 0 ≤ ms ∧ ms < boundary n k := by
  constructor
  · rintro ⟨i, hi, hge, hlt⟩
    exact ⟨(boundary_mono n (Nat.zero_le i)).trans hge, hlt.trans_le (boundary_mono n hi)⟩
  · rintro ⟨hge, hlt⟩
    induction k with
    | zero => omega
    | succ k ih =>
      by_cases hk : ms < boundary n k
      · obtain ⟨i, hi, hms⟩ := ih hk
        exact ⟨i, hi.trans (Nat.lt_succ_self k), hms⟩
      · exact ⟨k, Nat.lt_succ_self k, not_lt.mp hk, hlt⟩

theorem boundary_zero (n : ℕ) : boundary n 0 = 0 := by
  rw [boundary, Nat.zero_mul, Nat.zero_min]
  rfl

theorem boundary_chunkCount (n : ℕ) : boundary n (chunkCount n) = toMs n := by
  have hle : n ≤ chunkCount n * chunkSamples := Lists.le_chunks_mul n (by decide)
  rw [boundary, min_eq_right hle]

/-- **The pieces cover the recording.** -/
theorem exists_interval_iff (samples : List UInt32) (ms : ℤ) :
    (∃ I ∈ intervals samples, I.1 ≤ ms ∧ ms < I.2) ↔ 0 ≤ ms ∧ ms < toMs samples.length := by
  rw [← boundary_chunkCount, ← boundary_zero samples.length, ← exists_boundary_iff, intervals_eq]
  simp only [List.mem_map, List.mem_range]
  constructor
  · rintro ⟨I, ⟨i, hi, rfl⟩, hms⟩
    exact ⟨i, hi, hms⟩
  · rintro ⟨i, hi, hms⟩
    exact ⟨_, ⟨i, hi, rfl⟩, hms⟩

/-- A piece of a millisecond or more does not end when it begins, as long as the numbers of samples
keep the milliseconds apart. -/
theorem startMs_lt_endMs {samples : List UInt32} {p : List UInt32 × ℕ}
    (hp : p ∈ numberedChunks samples) (hlong : 16 ≤ p.1.length)
    (hn : samples.length ≤ 144115188075855872) : (interval p).1 < (interval p).2 := by
  rw [numberedChunks_eq, List.mem_map] at hp
  obtain ⟨i, hi, rfl⟩ := hp
  rw [List.length_take, List.length_drop] at hlong
  have hoffset : Rust.asF64 (i * chunkSamples) = i * chunkSamples :=
    Rust.asF64_of_dvd (e := 4) (Nat.dvd_mul_left_of_dvd (by decide) i) (by omega)
  have hnext : Rust.asF64 (i * chunkSamples + 16) = i * chunkSamples + 16 :=
    Rust.asF64_of_dvd (e := 4)
      (Nat.dvd_add (Nat.dvd_mul_left_of_dvd (by decide) i) (by decide)) (by omega)
  calc toMs (i * chunkSamples) < toMs (i * chunkSamples + 16) := by
        rw [toMs, toMs, hoffset, hnext]
        omega
    _ ≤ endMs i ((samples.drop (i * chunkSamples)).take chunkSamples) := by
        rw [endMs, List.length_take, List.length_drop]
        exact toMs_mono (Nat.add_le_add_left hlong _)

/-- The pieces begin at different times: their beginnings are exact. -/
theorem startMs_lt_startMs {i j : ℕ} (h : i < j) (hj : j * chunkSamples ≤ 2305843009213693952) :
    startMs i < startMs j := by
  have hexact : ∀ k ≤ j, Rust.asF64 (k * chunkSamples) = k * chunkSamples := fun k hk ↦
    Rust.asF64_of_dvd (e := 8) (Nat.dvd_mul_left_of_dvd (by decide) k)
      ((Nat.mul_le_mul_right _ hk).trans hj)
  rw [startMs, startMs, toMs, toMs, hexact i h.le, hexact j le_rfl]
  unfold chunkSamples
  omega

/-- The end of the recording is its length, as long as rounding does not lead to the next
millisecond. -/
theorem toMs_eq {n : ℕ} (h : n ≤ 9007199254741006) : toMs n = (n / 16 : ℕ) := by
  rw [toMs]
  congr 1
  obtain hle | hlt := le_or_gt n 9007199254740992
  · rw [Rust.asF64_of_dvd (e := 0) (Nat.one_dvd n) hle]
  · have hlow : 9007199254740992 ≤ Rust.asF64 n :=
      (Rust.asF64_of_dvd (e := 1) (by decide) (by decide)).symm.le.trans (Rust.asF64_mono hlt.le)
    have hhigh : Rust.asF64 n ≤ 9007199254741006 :=
      (Rust.asF64_mono h).trans (Rust.asF64_of_dvd (e := 1) (by decide) (by decide)).le
    omega

/-- A piece ends before the ones after it begin. -/
theorem pairwise_intervals (samples : List UInt32) :
    (intervals samples).Pairwise fun I J ↦ I.1 ≤ J.1 ∧ I.2 ≤ J.1 := by
  rw [intervals_eq, List.pairwise_map]
  exact List.pairwise_lt_range.imp fun h ↦ ⟨boundary_mono _ h.le, boundary_mono _ h⟩

/-- No two pieces of what a vector can hold begin at the same time. -/
theorem pairwise_startMs_lt {samples : List UInt32} (hn : samples.length ≤ 2305843009213693952) :
    (intervals samples).Pairwise fun I J ↦ I.1 < J.1 := by
  rw [intervals, numberedChunks_eq, List.map_map, List.pairwise_map]
  refine List.pairwise_lt_range.imp_of_mem fun _ hj h ↦ startMs_lt_startMs h ?_
  exact (Lists.mul_lt_of_lt_chunks (by decide) (List.mem_range.mp hj)).le.trans hn

/-! ## What a run leaves in the database -/

/-- When a segment begins and ends. -/
def TranscriptSegment.interval (r : TranscriptSegment) : ℤ × ℤ := (r.startMs, r.endMs)

/-- One round adds a segment for its piece, or none. -/
theorem transcribeChunk_spec (outcome : ℕ → ChunkOutcome) (sessionId : String)
    (progress : Progress) (p : List UInt32 × ℕ) :
    (transcribeChunk outcome sessionId progress p).db.segments = progress.db.segments ∨
      ∃ r : TranscriptSegment, r.sessionId = sessionId ∧ r.interval = interval p ∧
        (transcribeChunk outcome sessionId progress p).db.segments =
          progress.db.segments ++ [r] := by
  cases htext : (outcome p.2).text with
  | error e => exact .inl (by simp only [transcribeChunk, htext])
  | ok text =>
    by_cases hblank : Rust.trim text = ""
    · exact .inl (by simp only [transcribeChunk, htext, if_pos hblank])
    · simp only [transcribeChunk, htext, if_neg hblank]
      cases hinsert : insertSegment sessionId (Rust.trim text) (startMs p.2) (endMs p.2 p.1)
          (outcome p.2).uuid (outcome p.2).now (outcome p.2).faults progress.db with
      | error e => exact .inl rfl
      | ok db =>
        obtain ⟨-, -, -, rfl⟩ := insertSegment_eq_ok.mp hinsert
        exact .inr ⟨_, rfl, rfl, rfl⟩

/-- Some rounds add segments for some of their pieces, in the order of the pieces. -/
theorem foldl_transcribeChunk_spec (outcome : ℕ → ChunkOutcome) (sessionId : String)
    (ps : List (List UInt32 × ℕ)) (progress : Progress) :
    ∃ inserted : List TranscriptSegment, (∀ r ∈ inserted, r.sessionId = sessionId) ∧
      (inserted.map TranscriptSegment.interval).Sublist (ps.map interval) ∧
      (ps.foldl (transcribeChunk outcome sessionId) progress).db.segments =
        progress.db.segments ++ inserted := by
  induction ps generalizing progress with
  | nil => exact ⟨[], List.forall_mem_nil _, List.Sublist.refl _, (List.append_nil _).symm⟩
  | cons p ps ih =>
    obtain ⟨inserted, hsession, hsub, hrest⟩ := ih (transcribeChunk outcome sessionId progress p)
    rw [List.foldl_cons, hrest]
    obtain hsame | ⟨r, hr, hint, hadd⟩ := transcribeChunk_spec outcome sessionId progress p
    · rw [hsame]
      exact ⟨inserted, hsession, hsub.cons _, rfl⟩
    · rw [hadd, List.append_assoc]
      refine ⟨r :: inserted, List.forall_mem_cons.mpr ⟨hr, hsession⟩, ?_, rfl⟩
      rw [List.map_cons, List.map_cons, hint]
      exact hsub.cons_cons _

/-- **What a run stores**: segments for some of the pieces, in the order of the pieces. -/
theorem runTranscription_spec (env : Transcriber) (sessionId : String) (progress : Progress) :
    ∃ inserted : List TranscriptSegment, (∀ r ∈ inserted, r.sessionId = sessionId) ∧
      (inserted.map TranscriptSegment.interval).Sublist (intervals env.samples) ∧
      (runTranscription env sessionId progress).2.db.segments =
        progress.db.segments ++ inserted := by
  have hnothing : ∃ inserted : List TranscriptSegment, (∀ r ∈ inserted, r.sessionId = sessionId) ∧
      (inserted.map TranscriptSegment.interval).Sublist (intervals env.samples) ∧
      progress.db.segments = progress.db.segments ++ inserted :=
    ⟨[], List.forall_mem_nil _, List.nil_sublist _, (List.append_nil _).symm⟩
  rw [runTranscription]
  split
  · cases hdecode : env.decode with
    | error e => exact hnothing
    | ok stdout =>
      have hsamples : env.samples = decodeSamples stdout := by rw [Transcriber.samples, hdecode]
      by_cases hempty : decodeSamples stdout = []
      · simpa only [if_pos hempty] using hnothing
      · simp only [if_neg hempty]
        split
        · rw [hsamples]
          exact foldl_transcribeChunk_spec env.outcome sessionId _ progress
        · exact hnothing
  · exact hnothing

/-- The segments of a session come in the order in which they were stored, if that is the order of
their beginnings. -/
theorem getSegments_append {db : VoiceDb} {sessionId : String}
    {segments inserted : List TranscriptSegment} (hdb : db.segments = segments ++ inserted)
    (hnone : ∀ r ∈ segments, r.sessionId ≠ sessionId)
    (hsession : ∀ r ∈ inserted, r.sessionId = sessionId)
    (hsorted : inserted.Pairwise fun a b ↦ a.startMs ≤ b.startMs) :
    getSegments sessionId none db = .ok inserted := by
  have hold : segments.filter (fun r ↦ r.sessionId = sessionId) = [] :=
    List.filter_eq_nil_iff.mpr fun r hr ↦ by simpa using hnone r hr
  have hnew : inserted.filter (fun r ↦ r.sessionId = sessionId) = inserted :=
    List.filter_eq_self.mpr fun r hr ↦ by simpa using hsession r hr
  rw [getSegments, hdb, List.filter_append, hold, hnew, List.nil_append,
    hsorted.insertionSort_eq]

/-- **The timeline.**  In a session without segments, whatever comes of the pieces: each begins
where the one before ends and lasts a while, together they are the recording, and `get_segments` has
what was stored in the order in which it was stored, without an overlap.

The three numbers are `2 ^ 57`, as far as floating-point numbers keep the milliseconds apart,
`2 ^ 53 + 14`, as far as they have the length of the recording to the millisecond, and `2 ^ 61`,
which is more samples than a vector can hold. -/
theorem timeline (env : Transcriber) (sessionId : String) (progress : Progress)
    (hnone : ∀ r ∈ progress.db.segments, r.sessionId ≠ sessionId) :
    (intervals env.samples).IsChain (fun I J ↦ I.2 = J.1) ∧
    (env.samples.length ≤ 144115188075855872 →
      ∀ p ∈ numberedChunks env.samples, 16 ≤ p.1.length → (interval p).1 < (interval p).2) ∧
    (env.samples.length ≤ 9007199254741006 → ∀ ms,
      (∃ I ∈ intervals env.samples, I.1 ≤ ms ∧ ms < I.2) ↔
        0 ≤ ms ∧ ms < (env.samples.length / 16 : ℕ)) ∧
    ∃ inserted : List TranscriptSegment,
      (runTranscription env sessionId progress).2.db.segments =
        progress.db.segments ++ inserted ∧
      (inserted.map TranscriptSegment.interval).Sublist (intervals env.samples) ∧
      getSegments sessionId none (runTranscription env sessionId progress).2.db = .ok inserted ∧
      (env.samples.length ≤ 2305843009213693952 →
        inserted.Pairwise fun a b ↦ a.startMs < b.startMs) ∧
      inserted.Pairwise fun a b ↦ a.endMs ≤ b.startMs := by
  refine ⟨isChain_intervals _, fun hn p hp hlong ↦ startMs_lt_endMs hp hlong hn, fun hn ms ↦ ?_, ?_⟩
  · rw [exists_interval_iff, toMs_eq hn]
  · obtain ⟨inserted, hsession, hsub, hdb⟩ := runTranscription_spec env sessionId progress
    have hpairs := List.pairwise_map.mp ((pairwise_intervals env.samples).sublist hsub)
    refine ⟨inserted, hdb, hsub, ?_, fun hn ↦ ?_, hpairs.imp And.right⟩
    · exact getSegments_append hdb hnone hsession (hpairs.imp And.left)
    · have hstarts := (pairwise_startMs_lt hn).sublist hsub
      rwa [List.pairwise_map] at hstarts

/-- A recording of so many samples in which nothing is said. -/
def Transcriber.silent (n : ℕ) : Transcriber where
  utf8 := true
  decode := .ok (List.replicate (4 * n) 0)
  engine := true
  outcome _ := ⟨.ok "", "", 0, .none⟩

theorem length_samples_silent (n : ℕ) : (Transcriber.silent n).samples.length = n := by
  show (decodeSamples (List.replicate (4 * n) 0)).length = n
  induction n with
  | zero => rfl
  | succ n ih => exact congrArg Nat.succ ih

/-- A database with a segment of another session. -/
theorem timeline_example :
    ∃ inserted, getSegments "m" none (runTranscription (.silent 480016) "m"
      ⟨{ VoiceDb.empty with segments := [⟨"s", "k", "hello", 0, 30000, 0⟩] }, []⟩).2.db =
        .ok inserted := by
  obtain ⟨-, -, -, inserted, -, -, hget, -⟩ :=
    timeline (.silent 480016) "m"
      ⟨{ VoiceDb.empty with segments := [⟨"s", "k", "hello", 0, 30000, 0⟩] }, []⟩
      (List.forall_mem_singleton.mpr (by decide))
  exact ⟨inserted, hget⟩

/-- The first length that rounding leads to the next millisecond: the last piece of
`2 ^ 53 + 15` samples ends a millisecond after the recording. -/
theorem timeline_counterexample :
    (Transcriber.silent 9007199254741007).samples.length = 9007199254741007 ∧
      ¬ ∀ ms, (∃ I ∈ intervals (Transcriber.silent 9007199254741007).samples,
          I.1 ≤ ms ∧ ms < I.2) ↔ 0 ≤ ms ∧ ms < (9007199254741007 / 16 : ℕ) := by
  refine ⟨length_samples_silent _, fun h ↦ ?_⟩
  have hcover := h 562949953421312
  rw [exists_interval_iff, length_samples_silent] at hcover
  revert hcover
  decide

end WorkWithMe.Voice
