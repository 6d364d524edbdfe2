import WorkWithMe.Pi.Prompts
import WorkWithMe.Pi.SessionResults

/-!
# What is known of every session with an agent

A session in which prompts are dealt with one after the other, while compactions are made and
applied, whatever comes of the prompts and of the saves.

* `AgentSession.Sane.step`, `AgentSession.sane_of_exec`: all is as it should be between two prompts.
* `session_requests`: each request for each prompt is a conversation.
* `session_records`: what is stored of a prompt is what its run has told.
* `session_saves`: what is done to the file are additions, and nothing is pending after a response.
* `session_durable`: if no write has failed, then all is in the file when there is a response.
-/

set_option autoImplicit false

namespace WorkWithMe.Pi

open Machine

section AgentSessions

variable (codec : Codec) (interval : ℕ) (trim : String → String)
  (createProvider : String → String → Option ProviderInfo) {F : Option ℕ → Prop}
  {a b : AgentSession} {p : Prompt}

/-! ## What is saved -/

namespace AgentSession

variable {codec interval createProvider}

theorem saveEnabled_flush (a : AgentSession) (x : Chance) (n : ℕ) (trigger : AutosaveFlushTrigger) :
    (a.flush codec interval x n trigger).1.saveEnabled = a.saveEnabled := by
  rw [flush]
  split <;> rfl

theorem saveEnabled_maybeCompact (a : AgentSession) (p : Prompt) :
    (a.maybeCompact codec interval p).1.saveEnabled = a.saveEnabled := by
  have happly (c : AgentSession) (result : CompactionResult) :
      (c.applyCompactionResult codec interval p.toChance result).1.saveEnabled = c.saveEnabled := by
    simp only [applyCompactionResult]
    split <;> exact saveEnabled_flush ..
  have hreceive : (a.receiveCompaction codec interval p).1.saveEnabled = a.saveEnabled := by
    rw [receiveCompaction]
    rcases a.compactionWorker.tryRecv (p.clock 0) p.received with ⟨_ | _ | _, worker⟩
    · rfl
    · rfl
    · exact happly ..
  have hstart (c : AgentSession) : (c.startCompaction p).saveEnabled = c.saveEnabled := by
    rw [startCompaction]
    split
    · split <;> rfl
    · rfl
  rw [maybeCompact]
  split
  · simp only
    split
    · exact (hstart _).trans hreceive
    · exact hreceive
  · rfl

theorem saveEnabled_applySessionModelSelection (a : AgentSession) :
    (a.applySessionModelSelection createProvider).saveEnabled = a.saveEnabled := by
  rw [applySessionModelSelection]
  split
  · split
    · rfl
    · split <;> rfl
  · rfl

theorem pending_flush {x : Chance} {n : ℕ} {trigger : AutosaveFlushTrigger}
    (hsave : a.saveEnabled = true) (hok : (a.flush codec interval x n trigger).2 = true) :
    (a.flush codec interval x n trigger).1.stored.session.autosaveQueue.pendingMutations = 0 := by
  rw [flush, if_pos hsave] at hok ⊢
  exact Stored.pending_flushAutosave hok

theorem pending_runAgent {n : ℕ} {r : RunResult} (hsave : a.saveEnabled = true)
    (hpending : a.stored.session.autosaveQueue.pendingMutations = 0)
    (hr : (a.runAgent codec interval trim p n).response = .returned r) :
    (a.runAgent codec interval trim p n).session.stored.session.autosaveQueue.pendingMutations =
      0 := by
  rw [runAgent] at hr ⊢
  cases hrun : a.agent.run trim p.script with
  | waiting w => exact hpending
  | done r' w rest =>
    rw [hrun] at hr
    cases r' with
    | error e => exact hpending
    | ok reply =>
      simp only at hr ⊢
      split at hr
      · rename_i hsaved
        exact pending_flush hsave hsaved
      · cases hr

/-- **Nothing is pending** when a prompt has got its response. -/
theorem pending_runAgentWithContent {r : RunResult} (hsave : a.saveEnabled = true)
    (hr : (a.runAgentWithContent codec interval trim createProvider p).response = .returned r) :
    (a.runAgentWithContent codec interval trim createProvider
      p).session.stored.session.autosaveQueue.pendingMutations = 0 := by
  have hcompact : ((a.applySessionModelSelection createProvider).maybeCompact codec interval
      p).1.saveEnabled = true := by
    rw [saveEnabled_maybeCompact, saveEnabled_applySessionModelSelection, hsave]
  rw [runAgentWithContent] at hr ⊢
  generalize (a.applySessionModelSelection createProvider).maybeCompact codec interval p = x
    at hcompact hr ⊢
  obtain ⟨b, ok⟩ := x
  simp only at hr ⊢
  split at hr
  · split at hr
    · rename_i hok hsaved
      simp only [hok, hsaved, if_true] at hr ⊢
      refine pending_runAgent trim ?_ (pending_flush hcompact hsaved) hr
      exact (saveEnabled_flush ..).trans hcompact
    · cases hr
  · cases hr

end AgentSession

/-! ## Runs of a session -/

/-- What is done with a session: a prompt is dealt with, somebody asks for a compaction, or an entry
of another kind is added. -/
inductive AgentAction where
  | prompt (p : Prompt)
  | compact (x : Chance)
      (generateSummary : List SessionMessage → CompactionSettings → Option String →
        Except String String)
      (generateTurnPrefixSummary : List SessionMessage → CompactionSettings →
        Except String String)
  | append (uuid : ℕ → String) (payload : Payload)

/-- A step of a session.  There is none for a prompt as long as the agent runs. -/
def AgentSession.step (a : AgentSession) : AgentAction → Option AgentSession
  | .prompt p =>
    let asked := a.runAgentWithContent codec interval trim createProvider p
    match asked.response with
    | .waiting => none
    | _ => some asked.session
  | .compact x generateSummary generateTurnPrefixSummary =>
    some (a.compactSynchronous codec interval x generateSummary generateTurnPrefixSummary).1
  | .append uuid payload => (a.stored.session.step (.append uuid payload)).map a.setSession

/-- What may be done: no UUID is drawn twice, and what is added besides what the agent does is
neither a reply nor a result nor a compaction. -/
def AgentSession.Allows (a : AgentSession) : AgentAction → Prop
  | .prompt p => Fresh p.uuids 0 a.stored.session ∧ ∀ i ∈ p.answers, i.IsFair
  | .compact x _ _ => Fresh x.uuids 0 a.stored.session
  | .append _ payload => (⟨none, none, payload⟩ : SessionEntry).isTurnPart = false ∧
      (⟨none, none, payload⟩ : SessionEntry).compaction? = none

/-- The faults of the saves are like that. -/
def AgentAction.FaultsIn (F : Option ℕ → Prop) : AgentAction → Prop
  | .prompt p => ∀ n, F (p.faults n)
  | .compact x _ _ => ∀ n, F (x.faults n)
  | .append _ _ => True

theorem Session.path_add (s : Session) (uuid : ℕ → String) (payload : Payload) :
    s.add uuid payload = s ∨ (s.add uuid payload).path =
      s.path ++ [⟨some (s.nextEntryId uuid), s.leafId, payload⟩] := by
  have happend := s.path_append uuid payload
  cases payload with
  | label targetId label =>
    rw [Session.add, Session.addLabel]
    cases s.getEntry targetId with
    | none => exact .inl rfl
    | some e => exact .inr happend
  | _ => exact .inr happend

theorem Session.header_add (s : Session) (uuid : ℕ → String) (payload : Payload) :
    (s.add uuid payload).header = s.header := by
  cases payload with
  | label targetId label =>
    rw [Session.add, Session.addLabel]
    cases s.getEntry targetId <;> rfl
  | _ => rfl

/-- **A step** leaves all as it should be, and what it does to the file are additions. -/
theorem AgentSession.Sane.step {act : AgentAction} (h : a.Sane) (hx : a.Allows act)
    (hF : act.FaultsIn F) (hb : a.step codec interval trim createProvider act = some b) :
    b.Sane ∧ a.stored.Goes codec interval F b.stored := by
  cases act with
  | prompt p =>
    obtain ⟨-, hsane, -, hgoes⟩ :=
      h.runAgentWithContent codec interval trim createProvider hF hx.1 hx.2
    rw [AgentSession.step] at hb
    split at hb
    · cases hb
    · rename_i hwaiting
      cases hb
      exact ⟨hsane hwaiting, hgoes⟩
  | compact x generateSummary generateTurnPrefixSummary =>
    cases hb
    exact h.compactSynchronous codec interval hF hx generateSummary generateTurnPrefixSummary
  | append uuid payload =>
    obtain ⟨t, ht, rfl⟩ := Option.map_eq_some_iff.mp hb
    have hsound := h.tidy.sound.step ht
    rw [Session.step] at ht
    split at ht
    · cases ht
    · rename_i hnew
      cases ht
      refine ⟨?_, Stored.goes_append codec interval hnew payload⟩
      rcases a.stored.session.path_add uuid payload with heq | hpath
      · rw [heq]
        exact h
      · exact h.grow hsound hpath (Recorded.nil.other hx.1)
          (List.forall_mem_singleton.mpr hx.2)

theorem AgentSession.sane_of_exec {header : SessionHeader} {maxPending : ℕ} {as : List AgentAction}
    (hsession : a.stored.session = .create header maxPending)
    (hpending : a.compactionWorker.pending = none)
    (hqueue : ∀ k, a.agent.messageQueue.queued k = [])
    (has : Guarded (AgentSession.step codec interval trim createProvider) AgentSession.Allows a as)
    (hF : ∀ act ∈ as, act.FaultsIn F)
    (hb : exec (AgentSession.step codec interval trim createProvider) a as = some b) :
    b.Sane ∧ a.stored.Goes codec interval F b.stored := by
  have hstart : a.Sane := by
    refine ⟨hsession ▸ Session.tidy_create header maxPending, ?_, fun k m hm ↦ ?_⟩
    · intro c hc
      rw [hpending] at hc
      cases hc
    · rw [hqueue] at hm
      cases hm
  refine inv_of_guarded
    (I := fun b : AgentSession ↦ b.Sane ∧ a.stored.Goes codec interval F b.stored)
    (fun c act b h hx hb ↦ ?_) ⟨hstart, .refl codec interval _⟩
    (has.and (guarded_of_forall_mem (fun act hact _ ↦ hF act hact) a)) hb
  obtain ⟨hsane, hgoes⟩ := h.1.step codec interval trim createProvider hx.1 hx.2 hb
  exact ⟨hsane, h.2.trans hgoes⟩

/-- There is no condition on the faults. -/
theorem AgentAction.faultsIn_true (act : AgentAction) : act.FaultsIn fun _ ↦ True := by
  cases act <;> simp [AgentAction.FaultsIn]

/-! ## What is in the file -/

section Additions

variable {codec interval} {maxPending : ℕ} {w v : StoredRun}

theorem SaveOutcome.tears_of_ne_torn {outcome : SaveOutcome} (h : outcome ≠ .torn) {torn : Bool}
    (ht : torn = false) : outcome.tears torn = false := by
  cases outcome with
  | rewritten => rfl
  | torn => exact absurd rfl h
  | _ => exact ht

/-- The leaf is the last entry. -/
def Session.IsAtEnd (s : Session) : Prop :=
  s.leafId = s.entries.getLast?.map SessionEntry.key

theorem Session.Resaved.isAtEnd {s t : Session} (h : s.Resaved t) (hend : s.IsAtEnd) :
    t.IsAtEnd := by
  rw [IsAtEnd, h.leaf, h.entries]
  exact hend

/-- What additions without faults leave as it is. -/
structure StoredRun.Continues (w v : StoredRun) : Prop where
  sound : v.stored.session.Sound
  entries : w.stored.session.entries <+: v.stored.session.entries
  header : v.stored.session.header = w.stored.session.header
  torn : w.torn = false → v.torn = false
  atEnd : w.stored.session.IsAtEnd → v.stored.session.IsAtEnd

theorem Session.IsAtEnd.add {s : Session} (h : s.IsAtEnd) (uuid : ℕ → String) (payload : Payload) :
    (s.add uuid payload).IsAtEnd := by
  have happend : (s.append uuid payload).IsAtEnd := by
    simp [IsAtEnd, Session.append, SessionEntry.key]
  cases payload with
  | label targetId label =>
    rw [Session.add, Session.addLabel]
    cases s.getEntry targetId with
    | none => exact h
    | some e => exact happend
  | _ => exact happend

/-- **A step** that adds an entry, or flushes and comes across no fault. -/
theorem StoredRun.continues_of_step {x : StoredAction} (h : w.stored.session.Sound)
    (hx : x.IsAddition (· = none)) (hv : w.step codec interval maxPending x = some v) :
    w.Continues v := by
  cases x with
  | act act =>
    cases act with
    | append uuid payload =>
      obtain ⟨t, ht, rfl⟩ := Option.map_eq_some_iff.mp hv
      have hsound := h.step ht
      have hentries := (h.carries ht).entries
      rw [Session.step] at ht
      split at ht
      · cases ht
      · cases ht
        exact ⟨hsound, hentries, Session.header_add .., id, fun hend ↦ hend.add uuid payload⟩
    | _ => cases hx
  | flush uuid fault trigger =>
    obtain rfl : fault = none := hx
    have hsaved := Stored.resaved_flushAutosave h codec interval uuid none trigger
    have hwhole := w.stored.flushAutosave_ne_torn codec interval uuid trigger
    cases hv
    exact ⟨hsaved.sound, hsaved.entries ▸ List.prefix_rfl, hsaved.header,
      SaveOutcome.tears_of_ne_torn hwhole, hsaved.isAtEnd⟩
  | _ => cases hx

/-- **The run lemma.** -/
theorem StoredRun.continues_of_exec {acts : List StoredAction} (h : w.stored.session.Sound)
    (hacts : ∀ x ∈ acts, x.IsAddition (· = none))
    (hv : exec (StoredRun.step codec interval maxPending) w acts = some v) : w.Continues v := by
  refine inv_of_guarded (I := w.Continues) (fun u x v hu hx hv ↦ ?_)
    ⟨h, List.prefix_rfl, rfl, id, id⟩
    (guarded_of_forall_mem (G := fun _ x ↦ x.IsAddition (· = none)) (fun x hx _ ↦ hacts x hx) w) hv
  have hstep := StoredRun.continues_of_step hu.sound hx hv
  exact ⟨hstep.sound, hu.entries.trans hstep.entries, hstep.header.trans hu.header,
    fun ht ↦ hstep.torn (hu.torn ht), fun hend ↦ hstep.atEnd (hu.atEnd hend)⟩

/-- If all that is there at the end can be read, then so can all that is written before. -/
theorem StoredRun.Kept.additions (hmax : 0 < maxPending) {acts : List StoredAction}
    (h : w.Kept codec) (hacts : ∀ x ∈ acts, x.IsAddition (· = none))
    (hv : exec (StoredRun.step codec interval maxPending) w acts = some v)
    (hheader : codec.KeepsHeader v.stored.session.header)
    (hkeeps : ∀ e ∈ v.stored.session.entries, codec.Keeps e) : v.Kept codec := by
  induction acts generalizing w with
  | nil =>
    cases hv
    exact h
  | cons x acts ih =>
    have hall := StoredRun.continues_of_exec h.sound hacts hv
    obtain ⟨u, hu, hv⟩ := exec_cons_eq_some.mp hv
    obtain ⟨hx, hacts⟩ := List.forall_mem_cons.mp hacts
    refine ih (h.step hmax ?_ hu) hacts hv
    cases x with
    | flush uuid fault trigger =>
      exact ⟨hall.header ▸ hheader, fun e he ↦ hkeeps e (hall.entries.subset he)⟩
    | act act => trivial
    | _ => cases hx

end Additions

/-- There is something on the current path after a response. -/
theorem Asked.Records.ne_nil {path : List SessionEntry} {m : Message} {x : Asked} {r : RunResult}
    (h : x.Records path m) (hr : x.response = .returned r) :
    x.session.stored.session.entriesForCurrentPath ≠ [] := by
  obtain ⟨history, l, hpath, hpayloads, hhistory⟩ := h
  rw [hr] at hhistory
  have hhistory : history ≠ [] := by
    rintro rfl
    cases r with
    | ok reply => cases hhistory.1
    | error e => cases hhistory
  intro hnil
  obtain ⟨-, rfl⟩ := List.append_eq_nil_iff.mp (hpath.symm.trans hnil)
  exact hhistory (List.map_eq_nil_iff.mp hpayloads.symm)

/-- All that is done to the file until a prompt is dealt with are additions. -/
theorem AgentSession.goes_of_exec {header : SessionHeader} {maxPending : ℕ} {as : List AgentAction}
    (hstored : a.stored = ⟨.create header maxPending, none⟩)
    (hpending : a.compactionWorker.pending = none)
    (hqueue : ∀ k, a.agent.messageQueue.queued k = [])
    (has : Guarded (AgentSession.step codec interval trim createProvider) AgentSession.Allows a as)
    (hF : ∀ act ∈ as, act.FaultsIn F)
    (hb : exec (AgentSession.step codec interval trim createProvider) a as = some b)
    (hp : b.Allows (.prompt p)) (hpF : ∀ n, F (p.faults n)) :
    ∃ acts torn, (∀ x ∈ acts, x.IsAddition F) ∧
      exec (StoredRun.step codec interval maxPending) (StoredRun.create maxPending header) acts =
        some ⟨(b.runAgentWithContent codec interval trim createProvider p).session.stored,
          torn⟩ := by
  obtain ⟨hsane, hgoes⟩ := AgentSession.sane_of_exec codec interval trim createProvider
    (congrArg Stored.session hstored) hpending hqueue has hF hb
  have hall := hgoes.trans
    (hsane.runAgentWithContent codec interval trim createProvider hpF hp.1 hp.2).2.2.2
  rw [hstored] at hall
  exact hall maxPending false

/-! ## An example -/

/-- The identifiers of the example. -/
def exampleUuids (i k : ℕ) : String :=
  if k = 100 then String.ofList (List.replicate (i + 2) 'a') else "a"

/-- A prompt for which the agent does what it does in the other example. -/
def examplePrompt : Prompt where
  content := .text "Go on"
  clock := fun i ↦ i
  received := .empty
  uuids := exampleUuids
  savedUuids := fun _ _ _ ↦ ""
  faults := fun _ ↦ none
  signal := true
  answers := exampleScript.answers

/-- A prompt for which the provider cannot be asked. -/
def exampleRefused : Prompt :=
  { examplePrompt with
    content := .text "Hi"
    answers := [.flag false, .opened (some "no")] }

/-- A session without entries. -/
def exampleAgentSession : AgentSession where
  agent := exampleAgent
  stored := ⟨.create exampleHeader 256, none⟩
  saveEnabled := true
  compactionSettings := ⟨true, 200000, 16384, 20000⟩
  compactionWorker := ⟨none, none, 0, ⟨60000, 120000, 100⟩⟩
  compactions := []

theorem exampleUuids_fresh {s : Session} (hs : ∀ k ∈ s.entries.map SessionEntry.key, k = "b") :
    Fresh exampleUuids 0 s := by
  refine ⟨fun i _ hmem ↦ ?_, fun i j hij hmem ↦ ?_⟩
  · have hlist := congrArg String.toList (hs _ hmem)
    simp [exampleUuids, List.replicate_succ] at hlist
  · rcases List.mem_cons.mp hmem with heq | hmem
    · have hlength := congrArg String.length heq
      simp [exampleUuids] at hlength
      omega
    · obtain ⟨k, hk, heq⟩ := List.mem_map.mp hmem
      have hne : exampleUuids i k = "a" := if_neg (by have := List.mem_range.mp hk; omega)
      rw [hne, show ("a".take 8).copy = "a" from rfl] at heq
      have hlength := congrArg String.length heq
      have hone : "a".length = 1 := rfl
      simp only [exampleUuids, if_true, String.length_ofList, List.length_replicate] at hlength
      omega

/-! ## Results -/

/-- **What is done to the file.**  Every run of a session with an agent is one of the session and
its file, in which nothing is done but that entries are added and that they are flushed, with the
faults that there were; and nothing is pending when a prompt has got its response. -/
theorem session_saves {header : SessionHeader} {maxPending : ℕ} (as : List AgentAction)
    (hstored : a.stored = ⟨.create header maxPending, none⟩)
    (hpending : a.compactionWorker.pending = none)
    (hqueue : ∀ k, a.agent.messageQueue.queued k = [])
    (has : Guarded (AgentSession.step codec interval trim createProvider) AgentSession.Allows a as)
    (hF : ∀ act ∈ as, act.FaultsIn F)
    (hb : exec (AgentSession.step codec interval trim createProvider) a as = some b)
    (hp : b.Allows (.prompt p)) (hpF : ∀ n, F (p.faults n)) :
    (∃ acts torn, (∀ x ∈ acts, x.IsAddition F) ∧
      exec (StoredRun.step codec interval maxPending) (StoredRun.create maxPending header) acts =
        some ⟨(b.runAgentWithContent codec interval trim createProvider p).session.stored, torn⟩) ∧
    ∀ r, b.saveEnabled = true →
      (b.runAgentWithContent codec interval trim createProvider p).response = .returned r →
      (b.runAgentWithContent codec interval trim createProvider
        p).session.stored.session.autosaveQueue.pendingMutations = 0 :=
  ⟨AgentSession.goes_of_exec codec interval trim createProvider hstored hpending hqueue has hF hb hp
    hpF, fun _ ↦ AgentSession.pending_runAgentWithContent trim⟩

theorem session_saves_example : ∃ b : AgentSession, b.stored.session.entries.length = 1 ∧
    (∃ acts torn, (∀ x ∈ acts, x.IsAddition (· = none)) ∧
      exec (StoredRun.step exampleCodec 50 256) (StoredRun.create 256 exampleHeader) acts =
        some ⟨(b.runAgentWithContent exampleCodec 50 id (fun _ _ ↦ none)
          examplePrompt).session.stored, torn⟩) ∧
    ∀ r, b.saveEnabled = true →
      (b.runAgentWithContent exampleCodec 50 id (fun _ _ ↦ none) examplePrompt).response =
        .returned r →
      (b.runAgentWithContent exampleCodec 50 id (fun _ _ ↦ none)
        examplePrompt).session.stored.session.autosaveQueue.pendingMutations = 0 :=
  ⟨_, rfl, session_saves exampleCodec 50 id (fun _ _ ↦ none) (a := exampleAgentSession)
    [.append (fun _ ↦ "b") (.modelChange "p" "m")] rfl rfl (fun k ↦ by cases k <;> rfl)
    (.cons rfl ⟨rfl, rfl⟩ trivial) (by simp [AgentAction.FaultsIn]) rfl
    ⟨exampleUuids_fresh (by decide), exampleScript_fair.answers⟩ fun _ ↦ rfl⟩

/-- **A response means that all is in the file.**  If no write has failed, then all of the session
is in the file when a prompt has got its response, and the session that is read from it has the same
entries and the same messages for a provider. -/
theorem session_durable {header : SessionHeader} {maxPending : ℕ} (hmax : 0 < maxPending)
    (as : List AgentAction) (hstored : a.stored = ⟨.create header maxPending, none⟩)
    (hpending : a.compactionWorker.pending = none)
    (hqueue : ∀ k, a.agent.messageQueue.queued k = [])
    (has : Guarded (AgentSession.step codec interval trim createProvider) AgentSession.Allows a as)
    (hfaults : ∀ act ∈ as, act.FaultsIn (· = none))
    (hb : exec (AgentSession.step codec interval trim createProvider) a as = some b)
    (hp : b.Allows (.prompt p)) (hpfaults : ∀ n, p.faults n = none) (hsave : b.saveEnabled = true)
    {c : AgentSession}
    (hc : (b.runAgentWithContent codec interval trim createProvider p).session = c)
    {r : RunResult}
    (hr : (b.runAgentWithContent codec interval trim createProvider p).response = .returned r)
    (hheader : codec.KeepsHeader c.stored.session.header)
    (hkeeps : ∀ e ∈ c.stored.session.entries, codec.Keeps e) :
    c.stored.file = some (codec.fileText c.stored.session.header c.stored.session.entries) ∧
    ∀ numThreads uuid, ∃ t,
      openJsonl codec maxPending numThreads uuid
        (codec.fileText c.stored.session.header c.stored.session.entries) = .ok (t, ⟨[], []⟩) ∧
      t.header = c.stored.session.header ∧ t.entries = c.stored.session.entries ∧
      t.toMessagesForCurrentPath = c.stored.session.toMessagesForCurrentPath := by
  obtain ⟨acts, torn, hacts, hrun⟩ := AgentSession.goes_of_exec codec interval trim createProvider
    hstored hpending hqueue has hfaults hb hp hpfaults
  have hnone := AgentSession.pending_runAgentWithContent trim hsave hr
  have hsane := (AgentSession.sane_of_exec codec interval trim createProvider
    (congrArg Stored.session hstored) hpending hqueue has hfaults hb).1
  obtain ⟨⟨before, -, hrecords⟩, -⟩ := hsane.runAgentWithContent codec interval trim createProvider
    (F := (· = none)) hpfaults hp.1 hp.2
  have hnonempty := hrecords.ne_nil hr
  rw [hc] at hrun hnone hnonempty
  have hstart : (StoredRun.create maxPending header).Kept codec :=
    StoredRun.kept_create header hmax
  have hkept := hstart.additions hmax hacts hrun hheader hkeeps
  have hall := StoredRun.continues_of_exec hstart.sound hacts hrun
  rcases hkept.reopened (hall.torn rfl) hnone maxPending with ⟨-, hnil⟩ | ⟨hfile, hopen⟩
  · rw [hkept.sound.entriesForCurrentPath_eq] at hnonempty
    exact absurd (List.eq_nil_of_sublist_nil (hnil ▸ Lineage.lineage_sublist _ _)) hnonempty
  · refine ⟨hfile, fun numThreads uuid ↦ ?_⟩
    obtain ⟨t, ht, hsame, hentries, -, -, -, hmessages⟩ := hopen numThreads uuid
    exact ⟨t, ht, hsame, hentries, hmessages (hall.atEnd rfl)⟩

theorem session_durable_example : ∃ c : AgentSession,
    (exampleAgentSession.runAgentWithContent exampleCodec 50 id (fun _ _ ↦ none)
      exampleRefused).session = c ∧ c.stored.session.entries.length = 1 ∧
    c.stored.file =
      some (exampleCodec.fileText c.stored.session.header c.stored.session.entries) ∧
    ∀ numThreads uuid, ∃ t,
      openJsonl exampleCodec 256 numThreads uuid
        (exampleCodec.fileText c.stored.session.header c.stored.session.entries) =
          .ok (t, ⟨[], []⟩) ∧
      t.header = c.stored.session.header ∧ t.entries = c.stored.session.entries ∧
      t.toMessagesForCurrentPath = c.stored.session.toMessagesForCurrentPath :=
  ⟨_, rfl, rfl, session_durable exampleCodec 50 id (fun _ _ ↦ none) (a := exampleAgentSession)
    (p := exampleRefused) (by decide : 0 < 256) [] rfl rfl (fun k ↦ by cases k <;> rfl) trivial
    (by simp) rfl ⟨exampleUuids_fresh (fun _ hk ↦ absurd hk List.not_mem_nil),
      by simp [exampleRefused, Answer.IsFair]⟩ (fun _ ↦ rfl) rfl rfl rfl exampleCodec_keepsHeader
    fun e he ↦ exampleCodec_keeps e (List.mem_of_mem_take (i := 1) he)⟩

end AgentSessions

end WorkWithMe.Pi
