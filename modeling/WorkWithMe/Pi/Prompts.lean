import WorkWithMe.Pi.AgentSession
import WorkWithMe.Pi.Delivery
import WorkWithMe.Pi.Recorded
import WorkWithMe.Pi.StoredSessions

/-!
# What a prompt leaves

`AgentSession.Sane` is what holds between two prompts: the turns on the current path are recorded,
so that what a provider gets of it is a conversation, and what is being summarized was prepared for
an earlier part of the path.

* `Reaches.opens`: a run begins with an input, so what comes behind it is a conversation.
* `Session.Tidy.grow`, `Session.Tidy.compact`: what is added to a path.
* `AgentSession.Sane.runAgentWithContent`: what a prompt leaves on the path, and what a provider
  gets.
-/

set_option autoImplicit false

namespace WorkWithMe.Pi

open Lineage Machine

variable {s t : Session} {l : List SessionEntry} {uuids : ℕ → ℕ → String} {n : ℕ}

/-! ## Paths that grow -/

/-- The path to the leaf. -/
def Session.path (s : Session) : List SessionEntry := leadingTo s.entries s.leafId

theorem Session.path_append (s : Session) (uuid : ℕ → String) (payload : Payload) :
    (s.append uuid payload).path =
      s.path ++ [⟨some (s.nextEntryId uuid), s.leafId, payload⟩] := by
  rw [path, leadingTo, Session.append]
  exact lineage_concat.trans (if_pos rfl)

/-- The identifiers that an entry may get. -/
def candidates (uuid : ℕ → String) : List String :=
  uuid 100 :: (List.range 100).map fun i ↦ ((uuid i).take 8).copy

theorem generateEntryId_mem (existing : List String) (uuid : ℕ → String) :
    generateEntryId existing uuid ∈ candidates uuid := by
  rw [generateEntryId, candidates]
  cases h : List.find? (· ∉ existing) ((List.range 100).map fun i ↦ ((uuid i).take 8).copy) with
  | none => exact List.mem_cons_self
  | some id => exact List.mem_cons_of_mem _ (List.mem_of_find?_eq_some h)

/-- From the `n`th one on, no UUID was drawn before. -/
structure Fresh (uuids : ℕ → ℕ → String) (n : ℕ) (s : Session) : Prop where
  new : ∀ i ≥ n, uuids i 100 ∉ s.entries.map SessionEntry.key
  distinct : ∀ i j, i < j → uuids j 100 ∉ candidates (uuids i)

theorem Fresh.notMem (h : Fresh uuids n s) (hs : s.Sound) : uuids n 100 ∉ s.entryIds := fun hmem ↦
  h.new n le_rfl ((hs.ids _).mp hmem)

theorem Fresh.mono {m : ℕ} (h : Fresh uuids n s) (hm : n ≤ m) : Fresh uuids m s :=
  ⟨fun i hi ↦ h.new i (hm.trans hi), h.distinct⟩

theorem Fresh.congr (h : Fresh uuids n s) (ht : t.entries = s.entries) : Fresh uuids n t :=
  ⟨ht ▸ h.new, h.distinct⟩

theorem Fresh.append (h : Fresh uuids n s) (payload : Payload)
    (ht : t.entries = (s.append (uuids n) payload).entries) : Fresh uuids (n + 1) t := by
  refine ⟨fun i hi hmem ↦ ?_, h.distinct⟩
  rw [ht, Session.append, List.map_append, List.mem_append] at hmem
  rcases hmem with hmem | hmem
  · exact h.new i (by omega) hmem
  · have hid : uuids i 100 = s.nextEntryId (uuids n) := List.mem_singleton.mp hmem
    exact h.distinct n i (by omega) (hid ▸ generateEntryId_mem _ _)

/-! ## Messages that are added -/

theorem Session.Sound.appendModelMessages (hs : s.Sound) (ms : List Message)
    (h : Fresh uuids n s) :
    (s.appendModelMessages uuids n ms).Sound ∧
      ∃ l, (s.appendModelMessages uuids n ms).path = s.path ++ l ∧
        l.map SessionEntry.payload = ms.map fun m ↦ .message (.ofMessage m) := by
  induction ms generalizing n s with
  | nil => exact ⟨hs, [], (List.append_nil _).symm, rfl⟩
  | cons m ms ih =>
    have hone : (s.appendModelMessage (uuids n) m).Sound := hs.appendMessage (h.notMem hs) _
    obtain ⟨hsound, l, hpath, hl⟩ := ih hone (h.append (.message (.ofMessage m)) rfl)
    refine ⟨hsound,
      ⟨some (s.nextEntryId (uuids n)), s.leafId, .message (.ofMessage m)⟩ :: l, ?_, ?_⟩
    · have happend := s.path_append (uuids n) (.message (.ofMessage m))
      rw [Session.appendModelMessages, hpath, List.append_cons]
      exact congrArg (· ++ l) happend
    · rw [List.map_cons, List.map_cons, hl]

/-- The entries of a conversation. -/
theorem Conversation.recorded {ms : List Message} (h : Conversation ms)
    (hl : l.map SessionEntry.payload = ms.map fun m ↦ .message (.ofMessage m)) : Recorded l := by
  induction h generalizing l with
  | nil =>
    rw [List.map_eq_nil_iff.mp hl]
    exact .nil
  | @input ms m _ hm ih =>
    rw [List.map_append] at hl
    obtain ⟨l, l', rfl, hms, hl'⟩ := List.map_eq_append_iff.mp hl
    obtain ⟨e, rfl, he⟩ := List.map_eq_singleton_iff.mp hl'
    refine (ih hms).other ?_
    rw [SessionEntry.isTurnPart, he]
    cases m <;> first | rfl | cases hm
  | @reply ms a _ ha ih =>
    rw [List.map_append] at hl
    obtain ⟨l, l', rfl, hms, hl'⟩ := List.map_eq_append_iff.mp hl
    obtain ⟨e, rfl, he⟩ := List.map_eq_singleton_iff.mp hl'
    exact (ih hms).reply he ha
  | @calls ms a rs _ hrs ih =>
    rw [List.map_append, List.map_cons] at hl
    obtain ⟨l, l', rfl, hms, hl'⟩ := List.map_eq_append_iff.mp hl
    obtain ⟨e, l', rfl, he, hl'⟩ := List.map_eq_cons_iff.mp hl'
    refine (ih hms).calls he ?_ hrs
    rw [hl', List.map_map]
    rfl

theorem uncompacted_of_payload (ms : List SessionMessage)
    (hl : l.map SessionEntry.payload = ms.map .message) : Uncompacted l := by
  intro e he
  have hmem : e.payload ∈ l.map SessionEntry.payload := List.mem_map_of_mem he
  rw [hl] at hmem
  obtain ⟨m, -, hm⟩ := List.mem_map.mp hmem
  rw [SessionEntry.compaction?, ← hm]

/-- What comes behind the first input of a conversation. -/
theorem Conversation.tail {m : Message} {ms : List Message} (h : Conversation (m :: ms))
    (hm : m.isInput = true) : Conversation ms := by
  generalize hall : m :: ms = all at h
  induction h generalizing ms with
  | nil => cases hall
  | @input l _ h hinput ih =>
    cases l with
    | nil => obtain ⟨rfl, rfl⟩ := List.cons.inj hall; exact .nil
    | cons _ l => obtain ⟨rfl, rfl⟩ := List.cons.inj hall; exact (ih rfl).input hinput
  | @reply l _ h ha ih =>
    cases l with
    | nil => obtain ⟨rfl, rfl⟩ := List.cons.inj hall; cases hm
    | cons _ l => obtain ⟨rfl, rfl⟩ := List.cons.inj hall; exact (ih rfl).reply ha
  | @calls l _ _ h hrs ih =>
    cases l with
    | nil => obtain ⟨rfl, rfl⟩ := List.cons.inj hall; cases hm
    | cons _ l => obtain ⟨rfl, rfl⟩ := List.cons.inj hall; exact (ih rfl).calls hrs

/-! ## How a run begins -/

/-- The run begins, and there need be no message yet. -/
def Phase.isOpening : Phase → Bool
  | .idle | .begun | .given _ false => true
  | _ => false

/-- The first message of a run is an input, and there is one as soon as a turn begins. -/
def State.Opens (s : State) : Prop :=
  (∀ m ∈ s.history.head?, m.isInput = true) ∧ (s.history = [] → s.phase.isOpening = true)

theorem head?_concat_isInput {l : List Message} {m : Message}
    (h : ∀ m ∈ l.head?, m.isInput = true) (hm : m.isInput = true) :
    ∀ m' ∈ (l ++ [m]).head?, m'.isInput = true := by
  cases l with
  | nil => rintro _ ⟨⟩; exact hm
  | cons m' l => exact h

/-- A reply is not the first message, and may become another one. -/
theorem head?_concat_assistant {l : List Message} {a b : AssistantMessage}
    (h : ∀ m ∈ (l ++ [Message.assistant a]).head?, m.isInput = true) :
    ∀ m ∈ (l ++ [Message.assistant b]).head?, m.isInput = true := by
  cases l with
  | nil => cases h _ rfl
  | cons m l => exact h

section Opens

variable {agent : Agent} {log : Log} {s : State}

theorem State.Opens.ne_nil (h : s.Opens) (hp : s.phase.isOpening = false) : s.history ≠ [] := by
  intro hnil
  rw [h.2 hnil] at hp
  cases hp

/-- A message is added when there is one. -/
theorem State.Opens.push {phase : Phase} {m : Message} (h : s.Opens)
    (hp : s.phase.isOpening = false) :
    State.Opens { s with phase := phase, history := s.history ++ [m] } := by
  refine ⟨?_, by simp⟩
  rw [List.head?_append_of_ne_nil _ (h.ne_nil hp)]
  exact h.1

theorem Reaches.opens (h : Reaches agent log s) : s.Opens := by
  induction h with
  | start => exact ⟨by simp [State.start], fun _ ↦ rfl⟩
  | @silent log s t h hs ih =>
    have hne := ih.ne_nil
    cases hs with
    | noMorePrompts _ hnil => exact ⟨ih.1, fun h ↦ absurd h hnil⟩
    | calls hp => exact ⟨ih.1, fun h ↦ absurd h (hne (by rw [hp]; rfl))⟩
    | announced hp => exact ⟨ih.1, fun h ↦ absurd h (hne (by rw [hp]; rfl))⟩
    | worked hp => exact ⟨ih.1, fun h ↦ absurd h (hne (by rw [hp]; rfl))⟩
  | @heard log s i h hi ih =>
    obtain ⟨q, ab, heq, rfl | ⟨_, _, _, _, hp, rfl⟩ | ⟨-, hp, rfl⟩⟩ := s.hear_cases i
    · exact heq ▸ ⟨ih.1, ih.2⟩
    · exact heq ▸ ⟨ih.1, fun h ↦ absurd h (ih.ne_nil (by rw [hp]; rfl))⟩
    · have hphase : s.phase.isOpening = false := by rcases hp with hp | hp <;> rw [hp] <;> rfl
      exact heq ▸ ⟨ih.1, fun h ↦ absurd h (ih.ne_nil hphase)⟩
  | @said log s t e h hm ih =>
    have hconverses := h.converses
    cases hm with
    | agentStart => exact ⟨ih.1, fun _ ↦ rfl⟩
    | promptStart => exact ⟨ih.1, fun _ ↦ rfl⟩
    | promptEnd hp =>
      rw [State.Converses, hp] at hconverses
      exact ⟨head?_concat_isInput ih.1 hconverses.2, by simp⟩
    | inputEnd hp =>
      rw [State.Converses, hp] at hconverses
      exact ⟨head?_concat_isInput ih.1 hconverses.2, by simp⟩
    | stopEnd hp => exact ih.push (by rw [hp]; rfl)
    | replyEnd hp => exact ih.push (by rw [hp]; rfl)
    | resultEnd hp => exact ih.push (by rw [hp]; rfl)
    | turnExceeded hp =>
      have hcloses := h.closes
      rw [State.Closes, hp] at hcloses
      obtain ⟨⟨l, hl⟩, -⟩ := hcloses
      have hhead := ih.1
      rw [hl] at hhead
      refine ⟨?_, by simp⟩
      rw [hl, List.dropLast_concat]
      exact head?_concat_assistant hhead
    | _ => exact ⟨ih.1, fun hnil ↦ absurd hnil (ih.ne_nil (by simp_all [Phase.isOpening]))⟩

end Opens

/-! ## Saves -/

/-- A save changes neither the entries of a session nor its leaf nor its header. -/
structure Session.Resaved (s t : Session) : Prop where
  sound : t.Sound
  entries : t.entries = s.entries
  leaf : t.leafId = s.leafId
  header : t.header = s.header

theorem Session.Resaved.path (h : s.Resaved t) : t.path = s.path := by
  rw [Session.path, h.entries, h.leaf, Session.path]

theorem Stored.resaved_saveInner {w : Stored} (h : w.session.Sound) (codec : Codec) (interval : ℕ)
    (uuid : ℕ → ℕ → String) (fault : Option ℕ) :
    w.session.Resaved (w.saveInner codec interval uuid fault).1.session := by
  obtain ⟨hsound, hentries, -⟩ := h.ensureEntryIds uuid
  have hsaved {n m : ℕ} {b : Bool} : ({ w.session.ensureEntryIds uuid with
      persistedEntryCount := n, headerDirty := b, appendsSinceCheckpoint := m } : Session).Sound :=
    hsound.congr rfl rfl rfl rfl rfl hsound.leaf fun hl ↦ ⟨hl, (hsound.linear hl).2⟩
  simp only [Stored.saveInner]
  split
  · split <;> exact ⟨by first | exact hsound | exact hsaved, hentries, rfl, rfl⟩
  · split
    · split <;> exact ⟨by first | exact hsound | exact hsaved, hentries, rfl, rfl⟩
    · exact ⟨hsound, hentries, rfl, rfl⟩

theorem Stored.resaved_flushAutosave {w : Stored} (h : w.session.Sound) (codec : Codec)
    (interval : ℕ) (uuid : ℕ → ℕ → String) (fault : Option ℕ) (trigger : AutosaveFlushTrigger) :
    w.session.Resaved (w.flushAutosave codec interval uuid fault trigger).1.session := by
  rw [Stored.flushAutosave]
  cases hbegin : w.session.autosaveQueue.beginFlush trigger with
  | none => exact ⟨h, rfl, rfl, rfl⟩
  | some x =>
    obtain ⟨batchSize, queue⟩ := x
    have hsaved := Stored.resaved_saveInner
      (w := ⟨{ w.session with autosaveQueue := queue }, w.file⟩) (h.setQueue queue) codec interval
      uuid fault
    exact ⟨hsaved.sound.setQueue _, hsaved.entries, hsaved.leaf, hsaved.header⟩

theorem Stored.queue_saveInner (w : Stored) (codec : Codec) (interval : ℕ) (uuid : ℕ → ℕ → String)
    (fault : Option ℕ) : (w.saveInner codec interval uuid fault).1.session.autosaveQueue =
      w.session.autosaveQueue := by
  simp only [Stored.saveInner]
  split
  · split <;> rfl
  · split
    · split <;> rfl
    · rfl

/-- No part of a write is in the file if no write fails. -/
theorem Stored.flushAutosave_ne_torn (w : Stored) (codec : Codec) (interval : ℕ)
    (uuid : ℕ → ℕ → String) (trigger : AutosaveFlushTrigger) :
    (w.flushAutosave codec interval uuid none trigger).2 ≠ .torn := by
  have hinner (v : Stored) : (v.saveInner codec interval uuid none).2 ≠ .torn := by
    simp only [Stored.saveInner]
    split
    · simp
    · split
      · split <;> simp_all
      · simp
  rw [Stored.flushAutosave]
  cases w.session.autosaveQueue.beginFlush trigger with
  | none => simp
  | some x => exact hinner _

/-- Nothing is pending after a flush that has succeeded. -/
theorem Stored.pending_flushAutosave {w : Stored} {codec : Codec} {interval : ℕ}
    {uuid : ℕ → ℕ → String} {fault : Option ℕ} {trigger : AutosaveFlushTrigger}
    (hok : (w.flushAutosave codec interval uuid fault trigger).2.isOk = true) :
    (w.flushAutosave codec interval uuid fault trigger).1.session.autosaveQueue.pendingMutations =
      0 := by
  rw [Stored.flushAutosave] at hok ⊢
  cases hbegin : w.session.autosaveQueue.beginFlush trigger with
  | none =>
    rw [AutosaveQueue.beginFlush] at hbegin
    split at hbegin
    · assumption
    · cases hbegin
  | some x =>
    obtain ⟨batchSize, queue⟩ := x
    have hqueue := Stored.queue_saveInner ⟨{ w.session with autosaveQueue := queue }, w.file⟩ codec
      interval uuid fault
    have hzero : queue.pendingMutations = 0 := by
      rw [AutosaveQueue.beginFlush] at hbegin
      split at hbegin
      · cases hbegin
      · cases hbegin
        rfl
    simp only [hbegin] at hok
    simp only [Session.finishFlush, AutosaveQueue.finishFlush, hok, if_true, hqueue, hzero]

/-! ## What is done to the file -/

/-- The action adds an entry, or flushes and comes across such a fault. -/
def StoredAction.IsAddition (F : Option ℕ → Prop) : StoredAction → Prop
  | .act (.append _ _) => True
  | .flush _ fault _ => F fault
  | _ => False

/-- A session and its file become others by entries that are added and by flushes. -/
def Stored.Goes (codec : Codec) (interval : ℕ) (F : Option ℕ → Prop) (w v : Stored) : Prop :=
  ∀ maxPending torn, ∃ acts torn', (∀ x ∈ acts, x.IsAddition F) ∧
    exec (StoredRun.step codec interval maxPending) ⟨w, torn⟩ acts = some ⟨v, torn'⟩

section Goes

variable (codec : Codec) (interval : ℕ) {F : Option ℕ → Prop} {u v w : Stored}

theorem Stored.Goes.refl (w : Stored) : w.Goes codec interval F w :=
  fun _ torn ↦ ⟨[], torn, by simp, rfl⟩

variable {codec interval} in
theorem Stored.Goes.trans (h : u.Goes codec interval F v) (h' : v.Goes codec interval F w) :
    u.Goes codec interval F w := by
  intro maxPending torn
  obtain ⟨acts, torn', hacts, hv⟩ := h maxPending torn
  obtain ⟨acts', torn'', hacts', hw⟩ := h' maxPending torn'
  refine ⟨acts ++ acts', torn'', List.forall_mem_append.mpr ⟨hacts, hacts'⟩, ?_⟩
  rw [exec_append, hv, Option.bind_some, hw]

theorem Stored.goes_flush (w : Stored) (uuid : ℕ → ℕ → String) {fault : Option ℕ}
    (hfault : F fault) (trigger : AutosaveFlushTrigger) :
    w.Goes codec interval F (w.flushAutosave codec interval uuid fault trigger).1 :=
  fun _ _ ↦ ⟨[.flush uuid fault trigger], _, List.forall_mem_singleton.mpr hfault, rfl⟩

theorem Stored.goes_append {uuid : ℕ → String} (hnew : uuid 100 ∉ w.session.entryIds)
    (payload : Payload) : w.Goes codec interval F ⟨w.session.add uuid payload, w.file⟩ := by
  intro _ torn
  refine ⟨[.act (.append uuid payload)], torn, List.forall_mem_singleton.mpr trivial, ?_⟩
  rw [exec_cons, StoredRun.step, Session.step, if_neg hnew]
  rfl

theorem Stored.goes_appendModelMessages (hs : w.session.Sound) (h : Fresh uuids n w.session)
    (ms : List Message) :
    w.Goes codec interval F ⟨w.session.appendModelMessages uuids n ms, w.file⟩ := by
  induction ms generalizing n w with
  | nil => exact .refl codec interval w
  | cons m ms ih =>
    have hone : w.Goes codec interval F ⟨w.session.appendModelMessage (uuids n) m, w.file⟩ :=
      Stored.goes_append codec interval (h.notMem hs) (.message (.ofMessage m))
    exact hone.trans (ih (w := ⟨w.session.appendModelMessage (uuids n) m, w.file⟩)
      (hs.appendMessage (h.notMem hs) _) (h.append (.message (.ofMessage m)) rfl))

end Goes

/-! ## Sessions in which all is as it should be -/

/-- The turns on the current path are recorded, and what a provider gets of it is a conversation. -/
structure Session.Tidy (s : Session) : Prop where
  sound : s.Sound
  recorded : Recorded s.path
  resolved : Resolved s.path
  conversation : Conversation (toMessagesFromPath s.path)

theorem Session.tidy_create (header : SessionHeader) (n : ℕ) : (Session.create header n).Tidy where
  sound := Session.sound_create header n
  recorded := .nil
  resolved := resolved_of_uncompacted fun _ he ↦ absurd he List.not_mem_nil
  conversation := .nil

theorem Session.Tidy.resaved (h : s.Tidy) (ht : s.Resaved t) : t.Tidy where
  sound := ht.sound
  recorded := ht.path ▸ h.recorded
  resolved := ht.path ▸ h.resolved
  conversation := ht.path ▸ h.conversation

/-- Turns are added. -/
theorem Session.Tidy.grow (h : s.Tidy) (ht : t.Sound) (hpath : t.path = s.path ++ l)
    (hl : Recorded l) (hu : Uncompacted l) : t.Tidy where
  sound := ht
  recorded := hpath ▸ h.recorded.append hl
  resolved := hpath ▸ h.resolved.append hu
  conversation := by
    rw [hpath, toMessagesFromPath_append h.resolved hu]
    exact h.conversation.append hl.conversation

/-- A compaction is added, for which something was prepared. -/
theorem Session.Tidy.compact {settings : CompactionSettings} {p : CompactionPreparation}
    {c : Compaction} {e : SessionEntry} (h : s.Tidy) (ht : t.Sound) (hpath : t.path = s.path ++ [e])
    (hp : Prepared s.path settings p) (he : e.payload = .compaction c)
    (hc : c.firstKeptEntryId = p.firstKeptEntryId) : t.Tidy := by
  obtain ⟨entries, l, hall, hentries, hl, hp⟩ := hp
  have hnodup : (entries.map SessionEntry.key).Nodup := by
    have hpathNodup := h.sound.nodup_leadingTo s.leafId
    rw [← Session.path, hall, List.map_append, List.nodup_append] at hpathNodup
    exact hpathNodup.1
  obtain ⟨old, history, turn, kept, -, hmessages, hkept, hresolved⟩ :=
    compacted hnodup hentries hp hl (by rw [SessionEntry.compaction?, he]) hc
  rw [← hall, ← hpath] at hmessages hresolved
  refine ⟨ht, ?_, hresolved, ?_⟩
  · rw [hpath]
    exact h.recorded.other (by rw [SessionEntry.isTurnPart, he])
  · rw [hmessages, ← List.singleton_append]
    exact (Conversation.nil.input (m := c.message) rfl).append hkept.conversation

/-- The path has become no longer, or by a compaction. -/
def Session.Compacted (s t : Session) : Prop :=
  t.path = s.path ∨ ∃ e c, e.payload = .compaction c ∧ t.path = s.path ++ [e]

/-! ## Sessions with an agent -/

section AgentSessions

variable (codec : Codec) (interval : ℕ) (trim : String → String)
  (createProvider : String → String → Option ProviderInfo) {F : Option ℕ → Prop}
  {a b : AgentSession} {p : Prompt} {x : Chance}

/-- What holds between two prompts, and in between: the session is as it should be, what is being
summarized is what was prepared for the path, and what waits in the queue are inputs. -/
structure AgentSession.Sane (a : AgentSession) : Prop where
  tidy : a.stored.session.Tidy
  prepared : ∀ c ∈ a.compactionWorker.pending,
    Prepared a.stored.session.path a.compactionSettings c.preparation
  queue : ∀ k, ∀ m ∈ a.agent.messageQueue.queued k, m.isInput = true

/-- Turns are added to the session. -/
theorem AgentSession.Sane.grow (h : a.Sane) (ht : t.Sound) (hpath : t.path =
    a.stored.session.path ++ l) (hl : Recorded l) (hu : Uncompacted l) : (a.setSession t).Sane where
  tidy := h.tidy.grow ht hpath hl hu
  prepared c hc := by
    have hprepared := (h.prepared c hc).append hl
    rwa [← hpath] at hprepared
  queue := h.queue

/-- What a save leaves. -/
structure AgentSession.Flushed (F : Option ℕ → Prop) (a b : AgentSession) : Prop where
  session : a.stored.session.Resaved b.stored.session
  goes : a.stored.Goes codec interval F b.stored
  agent : b.agent = a.agent
  settings : b.compactionSettings = a.compactionSettings
  worker : b.compactionWorker = a.compactionWorker

theorem AgentSession.Sane.flushed (h : a.Sane) (hb : a.Flushed codec interval F b) : b.Sane where
  tidy := h.tidy.resaved hb.session
  prepared := by
    rw [hb.worker, hb.settings, hb.session.path]
    exact h.prepared
  queue := hb.agent ▸ h.queue

theorem AgentSession.flushed_flush (hF : ∀ n, F (x.faults n)) (h : a.stored.session.Sound) (n : ℕ)
    (trigger : AutosaveFlushTrigger) :
    a.Flushed codec interval F (a.flush codec interval x n trigger).1 := by
  rw [AgentSession.flush]
  split
  · exact ⟨Stored.resaved_flushAutosave h .., Stored.goes_flush codec interval _ _ (hF n) _, rfl,
      rfl, rfl⟩
  · exact ⟨⟨h, rfl, rfl, rfl⟩, .refl codec interval _, rfl, rfl, rfl⟩

/-! ### Compactions -/

theorem exists_of_bind_eq_ok {ε α β : Type} {x : Except ε α} {f : α → Except ε β} {b : β}
    (h : x >>= f = .ok b) : ∃ a, x = .ok a ∧ f a = .ok b := by
  cases x with
  | error e => cases h
  | ok a => exact ⟨a, rfl, h⟩

theorem firstKeptEntryId_compact {generateSummary : List SessionMessage → CompactionSettings →
      Option String → Except String String}
    {generateTurnPrefixSummary : List SessionMessage → CompactionSettings → Except String String}
    {c : CompactionPreparation} {result : CompactionResult}
    (h : compact generateSummary generateTurnPrefixSummary c = .ok result) :
    result.firstKeptEntryId = c.firstKeptEntryId := by
  rw [compact] at h
  simp only at h
  split at h
  · split at h
    all_goals
      obtain ⟨_, -, h⟩ := exists_of_bind_eq_ok h
      obtain ⟨_, -, h⟩ := exists_of_bind_eq_ok h
      obtain ⟨_, -, h⟩ := exists_of_bind_eq_ok h
      cases h
      rfl
  · obtain ⟨summary, -, hsummary⟩ := exists_of_bind_eq_ok h
    cases hsummary
    rfl

/-- What comes of the thread is a compaction for which something was prepared. -/
theorem AgentSession.Sane.tryRecv (h : a.Sane) (now : ℕ) (received : Received) :
    { a with compactionWorker := (a.compactionWorker.tryRecv now received).2 }.Sane ∧
      ∀ result, (a.compactionWorker.tryRecv now received).1 = some (.ok result) →
        ∃ c, Prepared a.stored.session.path a.compactionSettings c ∧
          result.firstKeptEntryId = c.firstKeptEntryId := by
  have hnone {w : CompactionWorkerState} (hw : w.pending = none) :
      { a with compactionWorker := w }.Sane :=
    ⟨h.tidy, fun c hc ↦ absurd (hw.symm.trans hc) (by simp), h.queue⟩
  rw [CompactionWorkerState.tryRecv]
  cases hpending : a.compactionWorker.pending with
  | none => exact ⟨h, by simp⟩
  | some c =>
    simp only
    split
    · exact ⟨hnone rfl, by simp⟩
    · cases received with
      | empty => exact ⟨h, by simp⟩
      | disconnected => exact ⟨hnone rfl, by simp⟩
      | poisoned => exact ⟨hnone rfl, by simp⟩
      | finished generateSummary generateTurnPrefixSummary =>
        refine ⟨hnone rfl, fun result hresult ↦ ⟨c.preparation, h.prepared c hpending, ?_⟩⟩
        exact firstKeptEntryId_compact (Option.some.inj hresult)

theorem AgentSession.Sane.applyCompactionResult {result : CompactionResult}
    {c : CompactionPreparation} (h : a.Sane) (hF : ∀ n, F (x.faults n))
    (hfresh : Fresh x.uuids 0 a.stored.session)
    (hc : Prepared a.stored.session.path a.compactionSettings c)
    (hresult : result.firstKeptEntryId = c.firstKeptEntryId) :
    (a.applyCompactionResult codec interval x result).1.Sane ∧
      Fresh x.uuids 1 (a.applyCompactionResult codec interval x result).1.stored.session ∧
      a.stored.session.Compacted
        (a.applyCompactionResult codec interval x result).1.stored.session ∧
      a.stored.Goes codec interval F (a.applyCompactionResult codec interval x result).1.stored := by
  have hsound : (a.stored.session.appendCompaction (x.uuids 0) ⟨result.summary,
      result.firstKeptEntryId, result.tokensBefore, some result.details, none⟩).Sound :=
    h.tidy.sound.append (hfresh.notMem h.tidy.sound) rfl rfl
  have hpath := a.stored.session.path_append (x.uuids 0) (.compaction ⟨result.summary,
    result.firstKeptEntryId, result.tokensBefore, some result.details, none⟩)
  have hset : (a.setSession (a.stored.session.appendCompaction (x.uuids 0) ⟨result.summary,
      result.firstKeptEntryId, result.tokensBefore, some result.details, none⟩)).Sane := by
    refine ⟨h.tidy.compact hsound hpath hc rfl hresult, fun d hd ↦ ?_, h.queue⟩
    change Prepared (a.stored.session.append (x.uuids 0) _).path a.compactionSettings _
    rw [hpath]
    exact (h.prepared d hd).append (Recorded.nil.other rfl)
  have hflushed := AgentSession.flushed_flush codec interval (a := a.setSession _) hF hsound 0
    .periodic
  rw [AgentSession.applyCompactionResult]
  simp only
  split
  all_goals
    have hsane := hset.flushed codec interval hflushed
    exact ⟨⟨hsane.tidy, hsane.prepared, hsane.queue⟩,
      (hfresh.append _ rfl).congr hflushed.session.entries,
      .inr ⟨_, _, rfl, hflushed.session.path.trans hpath⟩,
      (Stored.goes_append codec interval (hfresh.notMem h.tidy.sound) (.compaction _)).trans
        hflushed.goes⟩

/-- The first phase of a compaction. -/
theorem AgentSession.Sane.receiveCompaction (h : a.Sane) (hF : ∀ n, F (p.faults n))
    (hfresh : Fresh p.uuids 0 a.stored.session) :
    (a.receiveCompaction codec interval p).1.Sane ∧
      Fresh p.uuids 1 (a.receiveCompaction codec interval p).1.stored.session ∧
      a.stored.session.Compacted (a.receiveCompaction codec interval p).1.stored.session ∧
      a.stored.Goes codec interval F (a.receiveCompaction codec interval p).1.stored := by
  obtain ⟨hsane, hresult⟩ := h.tryRecv (p.clock 0) p.received
  rw [AgentSession.receiveCompaction]
  generalize a.compactionWorker.tryRecv (p.clock 0) p.received = received at hsane hresult ⊢
  obtain ⟨outcome, worker⟩ := received
  cases outcome with
  | none => exact ⟨hsane, hfresh.mono (by omega), .inl rfl, .refl codec interval _⟩
  | some outcome =>
    cases outcome with
    | error e =>
      exact ⟨⟨hsane.tidy, hsane.prepared, hsane.queue⟩, hfresh.mono (by omega), .inl rfl,
        .refl codec interval _⟩
    | ok result =>
      obtain ⟨c, hc, hfirst⟩ := hresult result rfl
      exact hsane.applyCompactionResult codec interval hF hfresh hc hfirst

/-- The second phase: what is prepared is prepared for the whole path. -/
theorem AgentSession.Sane.startCompaction (h : a.Sane) (p : Prompt) :
    (a.startCompaction p).Sane ∧ (a.startCompaction p).stored = a.stored := by
  rw [AgentSession.startCompaction]
  split
  · split
    · exact ⟨h, rfl⟩
    · rename_i preparation hpreparation
      rw [h.tidy.sound.entriesForCurrentPath_eq] at hpreparation
      refine ⟨⟨h.tidy, ?_, h.queue⟩, rfl⟩
      rintro c ⟨⟩
      exact ⟨_, [], (List.append_nil _).symm, h.tidy.recorded, .nil, hpreparation⟩
  · exact ⟨h, rfl⟩

theorem AgentSession.Sane.maybeCompact (h : a.Sane) (hF : ∀ n, F (p.faults n))
    (hfresh : Fresh p.uuids 0 a.stored.session) :
    (a.maybeCompact codec interval p).1.Sane ∧
      Fresh p.uuids 1 (a.maybeCompact codec interval p).1.stored.session ∧
      a.stored.session.Compacted (a.maybeCompact codec interval p).1.stored.session ∧
      a.stored.Goes codec interval F (a.maybeCompact codec interval p).1.stored := by
  rw [AgentSession.maybeCompact]
  split
  · obtain ⟨hsane, hfresh, hcompacted, hgoes⟩ := h.receiveCompaction codec interval hF hfresh
    simp only
    split
    · obtain ⟨hstart, hstored⟩ := hsane.startCompaction p
      exact ⟨hstart, hstored ▸ hfresh, hstored ▸ hcompacted, hstored ▸ hgoes⟩
    · exact ⟨hsane, hfresh, hcompacted, hgoes⟩
  · exact ⟨h, hfresh.mono (by omega), .inl rfl, .refl codec interval _⟩

/-- A compaction that somebody has asked for. -/
theorem AgentSession.Sane.compactSynchronous (h : a.Sane) (hF : ∀ n, F (x.faults n))
    (hfresh : Fresh x.uuids 0 a.stored.session)
    (generateSummary : List SessionMessage → CompactionSettings → Option String →
      Except String String)
    (generateTurnPrefixSummary : List SessionMessage → CompactionSettings →
      Except String String) :
    (a.compactSynchronous codec interval x generateSummary generateTurnPrefixSummary).1.Sane ∧
      a.stored.Goes codec interval F
        (a.compactSynchronous codec interval x generateSummary
          generateTurnPrefixSummary).1.stored := by
  rw [AgentSession.compactSynchronous]
  split
  · split
    · exact ⟨h, .refl codec interval _⟩
    · rename_i preparation hpreparation
      rw [h.tidy.sound.entriesForCurrentPath_eq] at hpreparation
      have hprepared : Prepared a.stored.session.path a.compactionSettings preparation :=
        ⟨_, [], (List.append_nil _).symm, h.tidy.recorded, .nil, hpreparation⟩
      have hstarted : ({ a with compactions := a.compactions ++ [.start "threshold"] } :
          AgentSession).Sane := ⟨h.tidy, h.prepared, h.queue⟩
      split
      · rename_i result hresult
        obtain ⟨hsane, -, -, hgoes⟩ := hstarted.applyCompactionResult codec interval hF hfresh
          hprepared (firstKeptEntryId_compact hresult)
        exact ⟨hsane, hgoes⟩
      · exact ⟨⟨h.tidy, h.prepared, h.queue⟩, .refl codec interval _⟩
  · exact ⟨h, .refl codec interval _⟩

/-! ### Prompts -/

theorem AgentSession.Sane.applySessionModelSelection (h : a.Sane) :
    (a.applySessionModelSelection createProvider).Sane ∧
      (a.applySessionModelSelection createProvider).stored = a.stored := by
  rw [AgentSession.applySessionModelSelection]
  split
  · split
    · exact ⟨h, rfl⟩
    · split
      · exact ⟨h, rfl⟩
      · exact ⟨⟨h.tidy, h.prepared, h.queue⟩, rfl⟩
  · exact ⟨h, rfl⟩

/-- Messages are added that are a conversation. -/
theorem AgentSession.Sane.appendModelMessages {ms : List Message} (h : a.Sane)
    (hfresh : Fresh uuids n a.stored.session) (hms : Conversation ms) :
    (a.setSession (a.stored.session.appendModelMessages uuids n ms)).Sane := by
  obtain ⟨hsound, l, hpath, hl⟩ := h.tidy.sound.appendModelMessages ms hfresh
  refine h.grow hsound hpath (hms.recorded hl) (uncompacted_of_payload (ms.map .ofMessage) ?_)
  rw [hl, List.map_map]
  rfl

/-- The prompt is added. -/
theorem AgentSession.Sane.appendPrompt (h : a.Sane) (hF : ∀ n, F (p.faults n))
    (hfresh : Fresh p.uuids 1 a.stored.session) :
    (a.appendPrompt codec interval p).1.Sane ∧
      Fresh p.uuids 2 (a.appendPrompt codec interval p).1.stored.session ∧
      (a.appendPrompt codec interval p).1.agent = a.agent ∧
      a.stored.Goes codec interval F (a.appendPrompt codec interval p).1.stored ∧
      ∃ e, e.payload = .message (.ofMessage p.message) ∧
        (a.appendPrompt codec interval p).1.stored.session.path = a.stored.session.path ++ [e] := by
  have hset : (a.setSession (a.stored.session.appendModelMessage (p.uuids 1) p.message)).Sane :=
    h.appendModelMessages hfresh (Conversation.nil.input rfl)
  have hflushed := AgentSession.flushed_flush codec interval (x := p.toChance) hF hset.tidy.sound 1
    .manual
  have hgoes := Stored.goes_append codec interval (F := F) (hfresh.notMem h.tidy.sound)
    (.message (.ofMessage p.message))
  exact ⟨hset.flushed codec interval hflushed, (hfresh.append _ rfl).congr hflushed.session.entries,
    hflushed.agent, hgoes.trans hflushed.goes, _, rfl,
    hflushed.session.path.trans (a.stored.session.path_append _ _)⟩

/-- What a run was given, and what it has begun with. -/
theorem Prompt.fair_script (h : a.Sane) (hanswers : ∀ i ∈ p.answers, i.IsFair) :
    p.script.Fair a.agent where
  asked := List.cons_ne_nil _ _
  prompts m hm := by
    rw [Prompt.script, List.mem_singleton] at hm
    rw [hm]
    rfl
  queue := h.queue
  answers := hanswers

theorem AgentSession.log_runAgent (startLen : ℕ) :
    (a.runAgent codec interval trim p startLen).log = (a.agent.run trim p.script).world.log := by
  rw [AgentSession.runAgent]
  cases hr : a.agent.run trim p.script with
  | waiting w => rfl
  | done r w rest => cases r <;> rfl

/-- Only replies are told otherwise than they are. -/
theorem Retold.filter_isInput {history l : List Message} (h : Retold history l) :
    history.filter Message.isInput = l.filter Message.isInput := by
  obtain rfl | ⟨l, a, b, rfl, rfl, -⟩ := h
  · rfl
  · simp [Message.isInput]

/-- What a run has added that has ended well: the prompt, and behind it a conversation that ends
with the reply.  It is what was told. -/
theorem Agent.messages_run {agent : Agent} {m : Message} {signal : Bool} {answers : List Answer}
    (h : (Script.mk [m] signal answers).Fair agent) {reply : AssistantMessage} {w : Moment}
    {rest : List Answer} (hr : agent.run trim ⟨[m], signal, answers⟩ = .done (.ok reply) w rest) :
    ∃ ms, w.state.agent.messages.drop (agent.messages.length + 1) = ms ∧ Conversation ms ∧
      EndsWith (m :: ms) reply ∧ Retold (m :: ms) (told w.log) := by
  obtain ⟨s, inTurn, unreported, error, hover, -, rfl, hends, -⟩ := Agent.over_run trim h hr
  have hconverses := hover.reaches.converses
  have htells := hover.reaches.tells
  have hne := hover.reaches.opens.ne_nil (by rw [hover.phase]; rfl)
  have hhead := hover.reaches.opens.1
  rw [State.Converses, hover.phase] at hconverses
  rw [State.Tells, hover.phase] at htells
  have hmessages := hover.messages
  rw [List.append_nil] at hmessages
  cases hhistory : s.history with
  | nil => exact absurd hhistory hne
  | cons m' ms =>
    rw [hhistory] at hhead hconverses hends htells hmessages
    -- the first input that was told is the prompt
    have hmeets : (agent.run trim ⟨[m], signal, answers⟩).Meets (Delivered agent [m])
        (Accounted agent [m]) := wp_runLoop_ledger h.prompts h.queue signal answers h.answers
    rw [hr] at hmeets
    obtain ⟨⟨given, hledger⟩, -⟩ := hmeets
    have hfirst := hledger.told
    rw [toldInputs, ← htells.filter_isInput, List.filter_cons_of_pos (hhead m' rfl)] at hfirst
    obtain ⟨rfl, -⟩ := List.cons.inj hfirst
    refine ⟨ms, ?_, hconverses.tail (hhead m' rfl), hends, htells⟩
    rw [hmessages, ← List.drop_drop, List.drop_left, List.drop_one, List.tail_cons]

/-- The run of the agent. -/
theorem AgentSession.Sane.runAgent (h : a.Sane) (hF : ∀ n, F (p.faults n))
    (hfresh : Fresh p.uuids 2 a.stored.session) (hanswers : ∀ i ∈ p.answers, i.IsFair) :
    ((a.runAgent codec interval trim p a.agent.messages.length).response ≠ .waiting →
      (a.runAgent codec interval trim p a.agent.messages.length).session.Sane) ∧
    a.stored.Goes codec interval F
      (a.runAgent codec interval trim p a.agent.messages.length).session.stored := by
  have hfair := Prompt.fair_script h hanswers
  rw [AgentSession.runAgent]
  cases hr : a.agent.run trim p.script with
  | waiting w => exact ⟨fun hresponse ↦ absurd rfl hresponse, .refl codec interval _⟩
  | done r w rest =>
    obtain ⟨_, _, _, _, hover, -⟩ := Agent.over_run trim hfair hr
    have hover : ({ a with agent := w.state.agent } : AgentSession).Sane :=
      ⟨h.tidy, h.prepared, hover.queue⟩
    cases r with
    | error e => exact ⟨fun _ ↦ hover, .refl codec interval _⟩
    | ok reply =>
      obtain ⟨ms, hdrop, hms, -⟩ := Agent.messages_run trim hfair hr
      have hset := hover.appendModelMessages hfresh (hdrop ▸ hms)
      have hflushed := AgentSession.flushed_flush codec interval (x := p.toChance) hF
        hset.tidy.sound 2 .periodic
      exact ⟨fun _ ↦ hset.flushed codec interval hflushed,
        (Stored.goes_appendModelMessages codec interval h.tidy.sound hfresh _).trans hflushed.goes⟩

/-! ### What is stored -/

/-- What has come behind the path when a prompt was dealt with, as far as it was: the prompt, and if
the run has ended well then all that it has told, up to the reply. -/
def Asked.Records (path : List SessionEntry) (m : Message) (r : Asked) : Prop :=
  ∃ history l, r.session.stored.session.entriesForCurrentPath = path ++ l ∧
    l.map SessionEntry.payload = history.map (fun m ↦ .message (.ofMessage m)) ∧
    match r.response with
    | .returned (.ok reply) =>
      history.head? = some m ∧ EndsWith history reply ∧ Retold history (told r.log)
    | .returned (.error _) | .waiting => history = [m]
    | .notSaved => ∀ m' ∈ history.head?, m' = m

theorem AgentSession.Sane.records_runAgent {path : List SessionEntry} {e : SessionEntry}
    (h : a.Sane) (hfresh : Fresh p.uuids 2 a.stored.session)
    (hanswers : ∀ i ∈ p.answers, i.IsFair) (he : e.payload = .message (.ofMessage p.message))
    (hpath : a.stored.session.path = path ++ [e]) :
    (a.runAgent codec interval trim p a.agent.messages.length).Records path p.message := by
  have hfair := Prompt.fair_script h hanswers
  have hone : a.stored.session.entriesForCurrentPath = path ++ [e] :=
    h.tidy.sound.entriesForCurrentPath_eq.trans hpath
  have hpayload : [e].map SessionEntry.payload =
      [p.message].map fun m ↦ .message (.ofMessage m) := by simp [he]
  rw [AgentSession.runAgent]
  cases hr : a.agent.run trim p.script with
  | waiting w => exact ⟨_, _, hone, hpayload, rfl⟩
  | done r w rest =>
    cases r with
    | error e => exact ⟨_, _, hone, hpayload, rfl⟩
    | ok reply =>
      obtain ⟨ms, hdrop, -, hends, hretold⟩ := Agent.messages_run trim hfair hr
      obtain ⟨hsound, l, hl, hpayloads⟩ := h.tidy.sound.appendModelMessages ms hfresh
      have hflushed := AgentSession.flushed_flush codec interval (x := p.toChance)
        (F := fun _ ↦ True) (a := ({ a with agent := w.state.agent } : AgentSession).setSession
          (a.stored.session.appendModelMessages p.uuids 2 ms)) (fun _ ↦ trivial) hsound 2 .periodic
      rw [← hdrop] at hflushed
      have hall : (({ a with agent := w.state.agent } : AgentSession).persistNewMessages codec
          interval p (a.agent.messages.length + 1)).1.stored.session.entriesForCurrentPath =
          path ++ e :: l := by
        refine hflushed.session.sound.entriesForCurrentPath_eq.trans ?_
        refine hflushed.session.path.trans ?_
        rw [hdrop]
        refine hl.trans ?_
        rw [hpath, List.append_assoc, List.singleton_append]
      have hall' : (e :: l).map SessionEntry.payload =
          (p.message :: ms).map fun m ↦ .message (.ofMessage m) := by
        rw [List.map_cons, List.map_cons, he, hpayloads]
      simp only
      generalize AgentSession.persistNewMessages codec interval _ p _ = x at hall ⊢
      obtain ⟨b, saved⟩ := x
      cases saved with
      | true => exact ⟨p.message :: ms, e :: l, hall, hall', rfl, hends, hretold⟩
      | false => exact ⟨p.message :: ms, e :: l, hall, hall', by simp⟩

/-- **A prompt** leaves perhaps a compaction on the path, and behind it the prompt and what the run
has told.  All is then as it should be, and each request is a conversation. -/
theorem AgentSession.Sane.runAgentWithContent (h : a.Sane) (hF : ∀ n, F (p.faults n))
    (hfresh : Fresh p.uuids 0 a.stored.session) (hanswers : ∀ i ∈ p.answers, i.IsFair) :
    (∃ before, (before = a.stored.session.path ∨ ∃ e c, e.payload = .compaction c ∧
        before = a.stored.session.path ++ [e]) ∧
      (a.runAgentWithContent codec interval trim createProvider p).Records before p.message) ∧
    ((a.runAgentWithContent codec interval trim createProvider p).response ≠ .waiting →
      (a.runAgentWithContent codec interval trim createProvider p).session.Sane) ∧
    (∀ post pre context, (a.runAgentWithContent codec interval trim createProvider p).log =
      post ++ .said (.stream context) :: pre → Conversation context.messages) ∧
    a.stored.Goes codec interval F
      (a.runAgentWithContent codec interval trim createProvider p).session.stored := by
  obtain ⟨hselected, hstored⟩ := h.applySessionModelSelection createProvider
  obtain ⟨hsane, hfresh, hcompacted, hgoes⟩ :=
    hselected.maybeCompact codec interval hF (hstored ▸ hfresh)
  rw [hstored] at hcompacted hgoes
  rw [AgentSession.runAgentWithContent]
  generalize (a.applySessionModelSelection createProvider).maybeCompact codec interval p = x
    at hsane hfresh hcompacted hgoes ⊢
  obtain ⟨b, ok⟩ := x
  have hsound := hsane.tidy.sound
  cases ok with
  | false =>
    refine ⟨⟨_, hcompacted, [], [], ?_, rfl, by simp⟩, fun _ ↦ hsane, by simp, hgoes⟩
    rw [List.append_nil]
    exact hsound.entriesForCurrentPath_eq
  | true =>
    have hmessages : Conversation b.stored.session.toMessagesForCurrentPath := by
      rw [hsound.toMessagesForCurrentPath_eq]
      exact hsane.tidy.conversation
    have hreplaced : b.replaceMessages.Sane := ⟨hsane.tidy, hsane.prepared, hsane.queue⟩
    obtain ⟨hasked, hfresh, hagent, hprompt, e, he, hpath⟩ :=
      hreplaced.appendPrompt codec interval hF hfresh
    simp only [if_true]
    generalize b.replaceMessages.appendPrompt codec interval p = y
      at hasked hfresh hagent hprompt hpath ⊢
    obtain ⟨c, saved⟩ := y
    simp only at hasked hfresh hagent hprompt hpath ⊢
    rw [← hagent]
    cases saved with
    | false =>
      refine ⟨⟨_, hcompacted, [p.message], [e], ?_, by simp [he], by simp⟩, fun _ ↦ hasked, by simp,
        hgoes.trans hprompt⟩
      exact hasked.tidy.sound.entriesForCurrentPath_eq.trans hpath
    | true =>
      obtain ⟨hrun, hran⟩ := hasked.runAgent codec interval trim hF hfresh hanswers
      refine ⟨⟨_, hcompacted, hasked.records_runAgent codec interval trim hfresh hanswers he hpath⟩,
        hrun, fun post pre context hlog ↦ ?_, hgoes.trans (hprompt.trans hran)⟩
      simp only [if_true, AgentSession.log_runAgent] at hlog
      obtain ⟨s, hs⟩ := Agent.lawful_run trim (Prompt.fair_script hasked hanswers)
      exact hs.request (by rw [hagent]; exact hmessages) hlog

end AgentSessions

end WorkWithMe.Pi
