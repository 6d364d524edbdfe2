import WorkWithMe.Client.Connection

/-!
# Whether a run is going on

`isProcessing` says whether what the user submits is a prompt or steers a run.  It is set when a
prompt is submitted and cleared by three kinds of messages of the server, none of which comes after
the connection has been lost.

* `Attended` is what holds as long as the flag is set: something will clear it.  `attended_of_step`
  is the step lemma.
* `leaves_of_attended`: the server alone can get the flag cleared.
* `truthful_of_guarded`: the runs in which the flag tells the truth.
-/

set_option autoImplicit false

namespace WorkWithMe.Client.Connection

open Server Machine

/-! ## What clears the flag -/

/-- The event clears `isProcessing`. -/
def clears : ChatEvent → Bool
  | .agentEnd | .promptComplete | .error _ => true
  | _ => false

theorem isProcessing_handle (c : Clock) (e : ChatEvent) (s : Chat) :
    (s.handle c e).isProcessing = (s.isProcessing && !clears e) := by
  cases e <;> simp [Chat.handle, Chat.onRest, clears, Chat.clearMessages, Chat.clearTimeout,
    Chat.setTimeout]

/-- The message clears it. -/
def Clearing (v : Json) : Prop := ∃ e, readEvent v = some e ∧ clears e = true

theorem isProcessing_onMessage_of_clearing {v : Json} (h : Clearing v) (c : Clock) (s : Chat) :
    (s.onMessage c v).isProcessing = false := by
  obtain ⟨e, he, hclears⟩ := h
  simp only [Chat.onMessage, he]
  rw [isProcessing_handle, hclears, Bool.not_true, Bool.and_false]

theorem isProcessing_onMessage_of_not_clearing {v : Json} (h : ¬Clearing v) (c : Clock)
    (s : Chat) : (s.onMessage c v).isProcessing = s.isProcessing := by
  rw [Chat.onMessage]
  cases he : readEvent v with
  | none => rfl
  | some e =>
    have hclears : clears e = false := by
      rw [Bool.eq_false_iff]
      exact fun hc ↦ h ⟨e, he, hc⟩
    dsimp only
    rw [isProcessing_handle, hclears, Bool.not_false, Bool.and_true]

theorem clearing_error (e : String) : Clearing (Reply.error e).toJson :=
  ⟨_, readEvent_error e, rfl⟩

theorem clearing_errorFrame (e : String) : Clearing (Frame.error e).toJson :=
  ⟨_, readEvent_errorFrame e, rfl⟩

theorem clearing_promptComplete (sid : SessionId) : Clearing (Frame.promptComplete sid).toJson :=
  ⟨_, readEvent_promptComplete sid, rfl⟩

/-- Such a message announces no session. -/
theorem Clearing.ne_chatCleared {v : Json} (h : Clearing v) (sid : SessionId) :
    readEvent v ≠ some (.chatCleared sid) := by
  obtain ⟨e, he, hc⟩ := h
  rw [he]
  rintro ⟨⟩
  cases hc

/-! ## While the flag is set -/

variable {t : CharTable} {toLowercase : String → String} {s r : State} {a : Action}
  {as : List Action}

/-- A prompt is on its way to the server. -/
def Asked (up : List Outgoing) : Prop :=
  ∃ text images sid, Outgoing.submitted (.prompt text images) sid ∈ up

/-- Something that clears the flag is on its way to the client. -/
def Answered (down : List Json) : Prop := ∃ v ∈ down, Clearing v

/-- What holds as long as the flag is set. -/
structure Attended (s : State) : Prop where
  opened : s.socket = .opened
  /-- There is a prompt to be read, a run to end, or a message to arrive. -/
  due : Asked s.up ∨ s.serving.run.isSome = true ∨ Answered s.down
  /-- A run is of the current session, or something will come after it, or the client has not heard
  of the session. -/
  own : ∀ sid, s.serving.run = some sid → s.currentSessionId = some sid ∨ s.up ≠ [] ∨
    ∃ v ∈ s.down, readEvent v = some (.chatCleared sid)
  /-- A prompt with nothing after it is for the current session, or for none. -/
  last : ∀ text images sid, s.up.getLast? = some (.submitted (.prompt text images) sid) →
    s.currentSessionId = sid ∨ sid.getD "" = ""
  /-- If the server has hung up, it has said so. -/
  hungUp : s.serving = .stopped → Answered s.down

/-- The sessions that are announced have an id. -/
def Named (s : State) : Prop :=
  (∀ v ∈ s.down, ∀ sid, readEvent v = some (.chatCleared sid) → sid ≠ "") ∧
    ∀ sid cwd, s.serving = .creating sid cwd → sid ≠ ""

/-- The connection is not lost while the flag is set, no prompt is submitted over a connection that
the server has ended, and no session without an id is loaded while the flag is set. -/
def Allowed (s : State) : Action → Prop
  | .closed => s.chat.isProcessing = false
  | .submit _ input attachments =>
    ∀ text images, handleSubmit s.chat.isProcessing input attachments = some (.prompt text images) →
      s.serving ≠ .stopped
  | .loaded (.ok data) =>
    data.success = true → data.sessionId.getD "" = "" → s.chat.isProcessing = false
  | _ => True

/-! ## The client's steps -/

theorem answered_append {down : List Json} (h : Answered down) (vs : List Json) :
    Answered (down ++ vs) := by
  obtain ⟨v, hv, hc⟩ := h
  exact ⟨v, List.mem_append_left vs hv, hc⟩

namespace Attended

/-- What does not concern the connection. -/
theorem of_frame (h : Attended s) (hsocket : r.socket = s.socket) (hup : r.up = s.up)
    (hdown : r.down = s.down) (hserving : r.serving = s.serving)
    (hsid : r.currentSessionId = s.currentSessionId) : Attended r where
  opened := by rw [hsocket, h.opened]
  due := by rw [hup, hdown, hserving]; exact h.due
  own := by rw [hup, hdown, hserving, hsid]; exact h.own
  last := by rw [hup, hsid]; exact h.last
  hungUp := by rw [hdown, hserving]; exact h.hungUp

/-- The last message is still the last. -/
theorem last_of_tail (h : Attended s) {m : Outgoing} {up : List Outgoing} (hup : s.up = m :: up)
    (text : String) (images : List Image) (sid : Option SessionId)
    (hlast : up.getLast? = some (.submitted (.prompt text images) sid)) :
    s.currentSessionId = sid ∨ sid.getD "" = "" := by
  refine h.last text images sid ?_
  rw [hup, List.getLast?_cons, hlast, Option.getD_some]

/-- Something is sent after which no prompt comes. -/
theorem send (h : Attended s) {m : Outgoing}
    (hm : ∀ text images sid, m ≠ .submitted (.prompt text images) sid) : Attended (s.send m) := by
  rw [State.send, if_pos h.opened]
  refine { h with due := ?_, own := ?_, last := ?_ }
  · rcases h.due with ⟨text, images, sid, hmem⟩ | hdue
    · exact Or.inl ⟨text, images, sid, List.mem_append_left [m] hmem⟩
    · exact Or.inr hdue
  · intro sid hrun
    exact Or.inr (Or.inl (by simp))
  · intro text images sid hlast
    rw [List.getLast?_concat] at hlast
    exact absurd (Option.some.inj hlast) (hm text images sid)

/-- Another session is shown, and joined. -/
theorem setCurrentSessionId (h : Attended s) {sid : SessionId} (hsid : sid ≠ "") :
    Attended (s.setCurrentSessionId (some sid)) := by
  rw [State.setCurrentSessionId]
  split
  · exact h
  · rw [State.join]
    dsimp only
    rw [if_neg hsid, State.send, if_pos h.opened]
    refine { h with due := ?_, own := ?_, last := ?_ }
    · rcases h.due with ⟨text, images, sid, hmem⟩ | hdue
      · exact Or.inl ⟨text, images, sid, List.mem_append_left _ hmem⟩
      · exact Or.inr hdue
    · exact fun _ _ ↦ Or.inr (Or.inl (by simp))
    · intro text images sid' hlast
      rw [List.getLast?_concat] at hlast
      cases hlast

/-- The server says something. -/
theorem reply (h : Attended s) (vs : List Json) : Attended (s.reply vs) where
  opened := h.opened
  due := h.due.imp_right (Or.imp_right fun hc ↦ answered_append hc vs)
  own sid hrun := (h.own sid hrun).imp_right (Or.imp_right fun ⟨v, hv, hread⟩ ↦
    ⟨v, List.mem_append_left vs hv, hread⟩)
  last := h.last
  hungUp hstop := answered_append (h.hungUp hstop) vs

/-- A message arrives that does not clear the flag. -/
theorem drop (h : Attended s) {v : Json} {down : List Json} (hdown : s.down = v :: down)
    (hclear : ¬Clearing v)
    (hsid : ∀ sid, readEvent v = some (.chatCleared sid) → s.currentSessionId = some sid)
    (chat : Chat) : Attended { s with down := down, chat := chat } := by
  have hanswered : Answered s.down → Answered down := by
    rw [hdown]
    rintro ⟨w, hw, hc⟩
    rcases List.mem_cons.mp hw with rfl | hw
    · exact absurd hc hclear
    · exact ⟨w, hw, hc⟩
  refine { h with due := ?_, own := ?_, hungUp := fun hstop ↦ hanswered (h.hungUp hstop) }
  · exact h.due.imp_right (Or.imp_right hanswered)
  · intro sid hrun
    rcases h.own sid hrun with hown | hup | ⟨w, hw, hread⟩
    · exact Or.inl hown
    · exact Or.inr (Or.inl hup)
    · rw [hdown] at hw
      rcases List.mem_cons.mp hw with rfl | hw
      · exact Or.inl (hsid sid hread)
      · exact Or.inr (Or.inr ⟨w, hw, hread⟩)

/-- A message arrives, and the flag is still set. -/
theorem onMessage (h : Attended s) (hnamed : Named s) {v : Json} {down : List Json}
    (hdown : s.down = v :: down) (c : Clock)
    (hproc : (State.onMessage { s with down := down } c v).chat.isProcessing = true) :
    Attended (State.onMessage { s with down := down } c v) := by
  have hclear : ¬Clearing v := by
    intro hc
    rw [onMessage_chat, isProcessing_onMessage_of_clearing hc] at hproc
    cases hproc
  rw [State.onMessage]
  dsimp only
  split
  · rename_i sid hread
    have hne : sid ≠ "" := hnamed.1 v (by rw [hdown]; exact List.mem_cons_self) sid hread
    rw [setCurrentSessionId_with]
    have hdown' : (s.setCurrentSessionId (some sid)).down = v :: down := by
      have := congrArg State.down (setCurrentSessionId_with s (some sid) s.down s.chat)
      rw [← hdown]
      exact this
    refine (h.setCurrentSessionId hne).drop hdown' hclear (fun sid' hread' ↦ ?_) _
    rw [hread] at hread'
    cases hread'
    exact setCurrentSessionId_currentSessionId s _
  · rename_i hread
    exact h.drop hdown hclear (fun sid hread' ↦ absurd hread' (hread sid)) _

/-- Something that clears the flag is on its way, and no run is going on. -/
theorem of_answered (hopen : r.socket = .opened) (hanswered : Answered r.down)
    (hrun : r.serving.run = none)
    (hlast : ∀ text images sid, r.up.getLast? = some (.submitted (.prompt text images) sid) →
      r.currentSessionId = sid ∨ sid.getD "" = "") : Attended r where
  opened := hopen
  due := Or.inr (Or.inr hanswered)
  own sid h := by rw [hrun] at h; cases h
  last := hlast
  hungUp _ := hanswered

/-- The server goes on to something that is not a run. -/
theorem rest (h : Attended s) (hs : s.serving.run = none) {x : Serving} (hrun : x.run = none)
    (hx : x ≠ .stopped) : Attended { s with serving := x } where
  opened := h.opened
  due := by
    rcases h.due with hdue | hdue | hdue
    · exact Or.inl hdue
    · rw [hs] at hdue
      cases hdue
    · exact Or.inr (Or.inr hdue)
  own sid h := by rw [hrun] at h; cases h
  last := h.last
  hungUp h := absurd h hx

/-- The server takes a message that is not what the flag is set for. -/
theorem pop (h : Attended s) (hs : s.serving = .idle) {m : Outgoing} {up : List Outgoing}
    (hup : s.up = m :: up) (hm : ∀ text images sid, m ≠ .submitted (.prompt text images) sid) :
    Attended { s with up := up } where
  opened := h.opened
  due := by
    rcases h.due with ⟨text, images, sid, hmem⟩ | hdue
    · rw [hup] at hmem
      rcases List.mem_cons.mp hmem with heq | hmem
      · exact absurd heq.symm (hm text images sid)
      · exact Or.inl ⟨text, images, sid, hmem⟩
    · exact Or.inr hdue
  own sid hrun := by rw [hs] at hrun; cases hrun
  last := last_of_tail h hup
  hungUp := h.hungUp

/-- The server takes a prompt. -/
theorem dispatch_prompt (h : Attended s) (hs : s.serving = .idle) {text : String}
    {images : List Image} {sid : Option SessionId} {up : List Outgoing}
    (hup : s.up = .submitted (.prompt text images) sid :: up) (u : Uuid) :
    Attended (State.dispatch { s with up := up } u
      (Outgoing.submitted (.prompt text images) sid).envelope) := by
  rw [Connection.dispatch_prompt]
  split
  · refine of_answered h.opened ⟨_, List.mem_append_right _ (List.mem_singleton_self _),
      clearing_error _⟩ (by rw [State.reply, hs]; rfl) (h.last_of_tail hup)
  · split
    · -- the session is announced
      refine ⟨h.opened, Or.inr (Or.inl rfl), fun sid' hrun ↦ ?_, h.last_of_tail hup, nofun⟩
      cases hrun
      exact Or.inr (Or.inr ⟨_, List.mem_append_right _ (List.mem_singleton_self _), rfl⟩)
    · rename_i hsid
      refine ⟨h.opened, Or.inr (Or.inl rfl), fun sid' hrun ↦ ?_, h.last_of_tail hup, nofun⟩
      cases hrun
      cases up with
      | cons m up => exact Or.inr (Or.inl (List.cons_ne_nil m up))
      | nil =>
        have := (h.last text images sid (by rw [hup]; rfl)).resolve_right hsid
        cases sid with
        | none => exact absurd rfl hsid
        | some sid => exact Or.inl this

/-- The server reads a message. -/
theorem serve (h : Attended s) (hs : s.serving = .idle) {m : Outgoing} {up : List Outgoing}
    (hup : s.up = m :: up) (t : CharTable) (size : ℕ) (u : Uuid) :
    Attended (State.serve { s with up := up } t size u m) := by
  rcases serve_cases t size u { s with up := up } m with ⟨e, h'⟩ | ⟨e, h'⟩ | h'
  · rw [h']
    exact of_answered h.opened ⟨_, List.mem_append_right _ (List.mem_singleton_self _),
      clearing_error e⟩ rfl (h.last_of_tail hup)
  · rw [h']
    exact of_answered h.opened ⟨_, List.mem_append_right _ (List.mem_singleton_self _),
      clearing_error e⟩ (by rw [State.reply, hs]; rfl) (h.last_of_tail hup)
  · rw [h']
    cases m with
    | join sid =>
      rw [dispatch_join]
      exact (h.pop hs hup nofun).reply _
    | newChat cwd =>
      rw [dispatch_newChat]
      exact (h.pop hs hup nofun).rest (by rw [hs]; rfl) rfl nofun
    | submitted m sid =>
      cases m with
      | steer text =>
        rw [dispatch_steer]
        exact (h.pop hs hup nofun).reply _
      | prompt text images => exact h.dispatch_prompt hs hup u

end Attended

/-- Only while the flag is set is an input a steering input. -/
theorem isProcessing_of_steer {isProcessing : Bool} {input text : String}
    {attachments : List Image}
    (h : handleSubmit isProcessing input attachments = some (.steer text)) :
    isProcessing = true := by
  rw [handleSubmit] at h
  split at h
  · cases h
  · split at h
    · rename_i hp
      exact hp
    · cases h

/-- The user submits something. -/
theorem attended_submit (h : s.chat.isProcessing = true → Attended s) {c : Clock} {input : String}
    {attachments : List Image} (hallowed : Allowed s (.submit c input attachments))
    (hproc : (s.submit c input attachments).chat.isProcessing = true) :
    Attended (s.submit c input attachments) := by
  rw [State.submit] at hproc ⊢
  cases hsub : handleSubmit s.chat.isProcessing input attachments with
  | none =>
    simp only [hsub, Chat.submit] at hproc ⊢
    exact h hproc
  | some m =>
    cases m with
    | steer text =>
      refine Attended.send ?_ (by rintro _ _ _ ⟨⟩)
      exact (h (isProcessing_of_steer hsub)).of_frame rfl rfl rfl rfl rfl
    | prompt text images =>
      simp only [hsub, send_chat, Chat.submit] at hproc
      by_cases hopen : s.socket = .opened
      · dsimp only
        rw [State.send, if_pos hopen]
        refine ⟨hopen, Or.inl ⟨text, images, _, List.mem_append_right _
          (List.mem_singleton_self _)⟩, fun _ _ ↦ Or.inr (Or.inl (by simp)), ?_, fun hstop ↦ ?_⟩
        · intro text' images' sid hlast
          rw [List.getLast?_concat] at hlast
          cases hlast
          exact Or.inl rfl
        · exact absurd hstop (hallowed text images hsub)
      · simp [hopen] at hproc

/-- A session has been loaded, or not. -/
theorem attended_loaded (h : s.chat.isProcessing = true → Attended s)
    {result : Except String LoadedSession} (hallowed : Allowed s (.loaded result))
    (hproc : (s.loaded result).chat.isProcessing = true) : Attended (s.loaded result) := by
  have hchat : (s.chat.loaded result).isProcessing = s.chat.isProcessing := by
    cases result with
    | ok data =>
      rw [Chat.loaded]
      split <;> rfl
    | error e => rfl
  cases result with
  | error e => exact (h (hchat ▸ hproc)).of_frame rfl rfl rfl rfl rfl
  | ok data =>
    rw [State.loaded] at hproc ⊢
    dsimp only at hproc ⊢
    split at hproc
    · rename_i hsuccess
      have hproc' : s.chat.isProcessing = true := by
        rw [setCurrentSessionId_chat] at hproc
        split at hproc
        · exact hchat ▸ hproc
        · rw [send_chat] at hproc
          exact hchat ▸ hproc
      have hsid : data.sessionId.getD "" ≠ "" := fun hnone ↦
        absurd (hallowed hsuccess hnone) (by rw [hproc']; decide)
      rw [if_pos hsuccess, if_neg hsid]
      have hsome : data.sessionId = some (data.sessionId.getD "") := by
        cases hd : data.sessionId with
        | none => exact absurd (by rw [hd]; rfl) hsid
        | some sid => rfl
      rw [hsome]
      refine (Attended.send ?_ fun _ _ _ hm ↦ by cases hm).setCurrentSessionId hsid
      exact (h hproc').of_frame rfl rfl rfl rfl rfl
    · rename_i hsuccess
      rw [if_neg hsuccess]
      exact (h (hchat ▸ hproc)).of_frame rfl rfl rfl rfl rfl

/-! ## Sessions that are announced -/

namespace Named

theorem of_frame (h : Named s) (hdown : r.down = s.down) (hserving : r.serving = s.serving) :
    Named r := by
  rw [Named, hdown, hserving]
  exact h

/-- The server says something and goes on to something that is not a new chat. -/
theorem reply (h : Named s) {vs : List Json}
    (hvs : ∀ v ∈ vs, ∀ sid, readEvent v = some (.chatCleared sid) → sid ≠ "") {x : Serving}
    (hx : ∀ sid cwd, x ≠ .creating sid cwd) : Named { s.reply vs with serving := x } :=
  ⟨List.forall_mem_append.mpr ⟨h.1, hvs⟩, fun sid cwd hxs ↦ absurd hxs (hx sid cwd)⟩

/-- The same, with a message that announces nothing. -/
theorem reply_singleton (h : Named s) {v : Json}
    (hv : ∀ sid, readEvent v ≠ some (.chatCleared sid)) {x : Serving}
    (hx : ∀ sid cwd, x ≠ .creating sid cwd) : Named { s.reply [v] with serving := x } :=
  h.reply (List.forall_mem_singleton.mpr fun sid hread ↦ absurd hread (hv sid)) hx

theorem serve (h : Named s) (hs : s.serving = .idle) (m : Outgoing) (t : CharTable) (size : ℕ)
    (u : Uuid) : Named (s.serve t size u m) := by
  have hidle : ∀ {v : Json}, (∀ sid, readEvent v ≠ some (.chatCleared sid)) →
      Named (s.reply [v]) := by
    intro v hv
    have := h.reply_singleton hv (x := s.serving) (by rw [hs]; nofun)
    exact this
  rcases serve_cases t size u s m with ⟨e, h'⟩ | ⟨e, h'⟩ | h'
  · rw [h']
    exact h.reply_singleton (clearing_error e).ne_chatCleared nofun
  · rw [h']
    exact hidle (clearing_error e).ne_chatCleared
  · rw [h']
    cases m with
    | join sid =>
      rw [dispatch_join]
      exact hidle fun sid' ↦ by rw [readEvent_joinAck]; rintro ⟨⟩
    | newChat cwd =>
      rw [dispatch_newChat]
      refine ⟨h.1, fun sid cwd' hx ↦ ?_⟩
      cases hx
      exact u.text_ne_empty
    | submitted m sid =>
      cases m with
      | steer text =>
        rw [dispatch_steer]
        exact hidle fun sid' ↦ by rw [readEvent_steerAck]; rintro ⟨⟩
      | prompt text images =>
        rw [dispatch_prompt]
        split
        · exact hidle (clearing_error _).ne_chatCleared
        · split
          · refine h.reply (List.forall_mem_singleton.mpr fun sid hread ↦ ?_) nofun
            rw [readEvent_chatCleared] at hread
            cases hread
            exact u.text_ne_empty
          · exact ⟨h.1, nofun⟩

end Named

/-- Every step keeps this. -/
theorem named_of_step (h : Named s) (hstep : step t toLowercase s a = some r) : Named r := by
  cases step_cases hstep with
  | opened =>
    constructor
    · rw [State.onOpen, join_down]
      rintro _ ⟨⟩
    · rw [State.onOpen, join_serving]
      rintro _ _ ⟨⟩
  | closed =>
    constructor
    · rintro _ ⟨⟩
    · rintro _ _ ⟨⟩
  | reconnect | handleStop | loadSession | stopped | timeout => exact h.of_frame rfl rfl
  | submit c input attachments =>
    exact h.of_frame (submit_down s c input attachments) (submit_serving s c input attachments)
  | createSession cwd => exact h.of_frame (send_down s _) (send_serving s _)
  | loaded result => exact h.of_frame (loaded_down s result) (loaded_serving s result)
  | @deliver c v down hdown =>
    refine ⟨fun w hw ↦ h.1 w ?_, fun sid cwd hx ↦ h.2 sid cwd ?_⟩
    · rw [onMessage_down] at hw
      rw [hdown]
      exact List.mem_cons_of_mem v hw
    · rw [onMessage_serving] at hx
      exact hx
  | @serve size u m up hs hup => exact Named.serve (s := { s with up := up }) h hs m t size u
  | @created sid cwd hs =>
    refine h.reply (List.forall_mem_singleton.mpr fun sid' hread ↦ ?_) (by rintro _ _ ⟨⟩)
    rw [readEvent_chatCleared] at hread
    cases hread
    exact h.2 sid cwd hs
  | createFailed | openFails =>
    exact h.reply_singleton (clearing_errorFrame _).ne_chatCleared (by rintro _ _ ⟨⟩)
  | ready => exact ⟨h.1, by rintro _ _ ⟨⟩⟩
  | forward e hs =>
    refine h.reply (x := s.serving) (fun v hv sid' hread ↦ ?_) (by rw [hs]; rintro _ _ ⟨⟩)
    exact absurd hread (readEvent_ne_chatCleared (Option.mem_toList.mp hv))
  | finish error =>
    refine h.reply (fun v hv sid' hread ↦ ?_) (by rintro _ _ ⟨⟩)
    obtain ⟨f, hf, rfl⟩ := List.mem_map.mp hv
    rcases List.mem_append.mp hf with hf | hf
    · obtain ⟨e, -, rfl⟩ := Option.map_eq_some_iff.mp (Option.mem_toList.mp hf)
      cases hread
    · cases List.mem_singleton.mp hf
      rw [readEvent_promptComplete] at hread
      cases hread
  | label text =>
    refine h.reply (fun v hv sid' hread ↦ ?_) (by rintro _ _ ⟨⟩)
    obtain ⟨f, hf, rfl⟩ := List.mem_map.mp hv
    obtain ⟨l, -, rfl⟩ := Option.map_eq_some_iff.mp (Option.mem_toList.mp hf)
    rw [readEvent_sessionLabelUpdated] at hread
    cases hread

/-! ## Every step -/

/-- **The step lemma.**  As long as the flag is set, something will clear it. -/
theorem attended_of_step (hnamed : Named s) (h : s.chat.isProcessing = true → Attended s)
    (hallowed : Allowed s a) (hstep : step t toLowercase s a = some r)
    (hproc : r.chat.isProcessing = true) : Attended r := by
  cases step_cases hstep with
  | opened hsocket =>
    -- the flag was not set before there was a connection
    have hchat : s.onOpen.chat = s.chat := by
      rw [State.onOpen, join_chat]
    have := (h (hchat ▸ hproc)).opened
    rw [hsocket] at this
    cases this
  | closed => exact absurd (hallowed.symm.trans hproc) (by decide)
  | reconnect hsocket =>
    have := (h hproc).opened
    rw [hsocket] at this
    cases this
  | submit c input attachments => exact attended_submit h hallowed hproc
  | createSession cwd =>
    rw [send_chat] at hproc
    exact (h hproc).send fun _ _ _ hm ↦ by cases hm
  | handleStop | loadSession | timeout => exact (h hproc).of_frame rfl rfl rfl rfl rfl
  | stopped result =>
    cases result with
    | ok _ => cases hproc
    | error e => exact (h hproc).of_frame rfl rfl rfl rfl rfl
  | loaded result => exact attended_loaded h hallowed hproc
  | @deliver c v down hdown =>
    have hset : s.chat.isProcessing = true := by
      by_contra hnot
      rw [onMessage_chat] at hproc
      by_cases hc : Clearing v
      · rw [isProcessing_onMessage_of_clearing hc] at hproc
        cases hproc
      · rw [isProcessing_onMessage_of_not_clearing hc] at hproc
        exact hnot hproc
    exact (h hset).onMessage hnamed hdown c hproc
  | serve size u hs hup =>
    rw [serve_chat] at hproc
    exact (h hproc).serve hs hup t size u
  | created hs | createFailed e hs | label text hs =>
    refine ((h hproc).reply _).rest ?_ rfl (by rintro ⟨⟩)
    rw [State.reply, hs]
    rfl
  | ready hs =>
    have h := h hproc
    refine { h with
      due := Or.inr (Or.inl rfl), own := fun sid' hrun ↦ h.own sid' ?_, hungUp := by rintro ⟨⟩ }
    rw [hs]
    exact hrun
  | openFails e =>
    have h := h hproc
    exact .of_answered h.opened ⟨_, List.mem_append_right _ (List.mem_singleton_self _),
      clearing_errorFrame _⟩ rfl h.last
  | forward e => exact (h hproc).reply _
  | @finish error sid hs =>
    have h := h hproc
    refine .of_answered h.opened ⟨_, List.mem_append_right _ ?_, clearing_promptComplete sid⟩ rfl
      h.last
    simp

/-! ## The server can get the flag cleared -/

/-- The step is one of the server, or the arrival of a message at the client. -/
def Action.bySystem : Action → Bool
  | .deliver _ | .serve _ _ | .created | .createFailed _ | .ready | .openFails _ | .forward _ |
    .finish _ | .label _ => true
  | _ => false

/-- The server alone can get the flag cleared. -/
def Leaves (t : CharTable) (toLowercase : String → String) (s : State) : Prop :=
  ∃ as r, (∀ a ∈ as, a.bySystem = true) ∧ exec (step t toLowercase) s as = some r ∧
    r.chat.isProcessing = false

theorem leaves_of_step (ha : a.bySystem = true) (hstep : step t toLowercase s a = some r)
    (h : Leaves t toLowercase r) : Leaves t toLowercase s := by
  obtain ⟨as, q, has, hrun, hq⟩ := h
  exact ⟨a :: as, q, List.forall_mem_cons.mpr ⟨ha, has⟩, exec_cons_eq_some.mpr ⟨r, hstep, hrun⟩, hq⟩

/-- What clears the flag arrives after what is in front of it. -/
theorem leaves_of_answered (h : Answered s.down) : Leaves t toLowercase s := by
  generalize hdown : s.down = down at h
  induction down generalizing s with
  | nil =>
    obtain ⟨v, hv, -⟩ := h
    cases hv
  | cons v down ih =>
    have hstep : step t toLowercase s (.deliver ⟨0, 0⟩) =
        some (State.onMessage { s with down := down } ⟨0, 0⟩ v) := by
      simp only [step, hdown]
    refine leaves_of_step rfl hstep ?_
    by_cases hc : Clearing v
    · refine ⟨[], _, List.forall_mem_nil _, rfl, ?_⟩
      rw [onMessage_chat]
      exact isProcessing_onMessage_of_clearing hc _ _
    · refine ih (onMessage_down _ _ _) ?_
      obtain ⟨w, hw, hcw⟩ := h
      rcases List.mem_cons.mp hw with rfl | hw
      · exact absurd hcw hc
      · exact ⟨w, hw, hcw⟩

/-- A run ends. -/
theorem leaves_of_run (h : s.serving.run.isSome = true) : Leaves t toLowercase s := by
  cases hs : s.serving with
  | opening sid =>
    exact leaves_of_step rfl (step_openFails t toLowercase hs "") (leaves_of_answered
      ⟨_, List.mem_append_right _ (List.mem_singleton_self _), clearing_errorFrame _⟩)
  | running sid =>
    exact leaves_of_step rfl (step_finish t toLowercase hs none) (leaves_of_answered
      ⟨_, List.mem_append_right _ (List.mem_singleton_self _), clearing_promptComplete sid⟩)
  | _ =>
    rw [hs] at h
    cases h

/-- A new chat is made. -/
theorem leaves_of_creating {sid : SessionId} {cwd : String} (hs : s.serving = .creating sid cwd) :
    Leaves t toLowercase s := by
  exact leaves_of_step rfl (step_createFailed t toLowercase hs "") (leaves_of_answered
    ⟨_, List.mem_append_right _ (List.mem_singleton_self _), clearing_errorFrame _⟩)

/-- The nil UUID. -/
def nilUuid : Uuid := ⟨"00000000-0000-0000-0000-000000000000", by decide⟩

/-- A prompt is read after what is in front of it. -/
theorem leaves_of_asked (hs : s.serving = .idle) (h : Asked s.up) : Leaves t toLowercase s := by
  generalize hup : s.up = up at h
  induction up generalizing s with
  | nil =>
    obtain ⟨text, images, sid, hmem⟩ := h
    cases hmem
  | cons m up ih =>
    have hstep : step t toLowercase s (.serve 0 nilUuid) =
        some (State.serve { s with up := up } t 0 nilUuid m) := by
      simp only [step, hs, hup]
    refine leaves_of_step rfl hstep ?_
    rcases serve_cases t 0 nilUuid { s with up := up } m with ⟨e, h'⟩ | ⟨e, h'⟩ | h'
    · rw [h']
      exact leaves_of_answered ⟨_, List.mem_append_right _ (List.mem_singleton_self _),
        clearing_error e⟩
    · rw [h']
      exact leaves_of_answered ⟨_, List.mem_append_right _ (List.mem_singleton_self _),
        clearing_error e⟩
    rw [h']
    have htail : (∀ text images sid, m ≠ .submitted (.prompt text images) sid) → Asked up := by
      intro hm
      obtain ⟨text, images, sid, hmem⟩ := h
      rcases List.mem_cons.mp hmem with heq | hmem
      · exact absurd heq.symm (hm text images sid)
      · exact ⟨text, images, sid, hmem⟩
    cases m with
    | join sid => exact ih hs rfl (htail (by rintro _ _ _ ⟨⟩))
    | newChat cwd =>
      rw [dispatch_newChat]
      exact leaves_of_creating rfl
    | submitted m sid =>
      cases m with
      | steer text => exact ih hs rfl (htail (by rintro _ _ _ ⟨⟩))
      | prompt text images =>
        rw [dispatch_prompt]
        split
        · exact leaves_of_answered ⟨_, List.mem_append_right _ (List.mem_singleton_self _),
            clearing_error _⟩
        · split
          · exact leaves_of_run rfl
          · exact leaves_of_run rfl

/-- **The server alone can get the flag cleared.** -/
theorem leaves_of_attended (h : Attended s) : Leaves t toLowercase s := by
  rcases h.due with hasked | hrun | hanswered
  · cases hs : s.serving with
    | idle => exact leaves_of_asked hs hasked
    | creating sid cwd => exact leaves_of_creating hs
    | opening sid | running sid => exact leaves_of_run (by rw [hs]; rfl)
    | labelling sid =>
      exact leaves_of_step rfl (step_label t toLowercase hs none) (leaves_of_asked rfl hasked)
    | stopped => exact leaves_of_answered (h.hungUp hs)
  · exact leaves_of_run hrun
  · exact leaves_of_answered hanswered

/-! ## Whether the flag tells the truth -/

/-- No message is on its way. -/
def Quiet (s : State) : Prop := s.up = [] ∧ s.down = []

/-- The server has a run for the session that is shown, over a connection that is open. -/
def Runs (s : State) : Prop :=
  s.socket = .opened ∧ ∃ sid, s.serving.run = some sid ∧ s.currentSessionId = some sid

/-- The flag tells the truth. -/
structure Truthful (t : CharTable) (toLowercase : String → String) (s : State) : Prop where
  /-- It is set only if there is a run. -/
  truth : Quiet s → s.chat.isProcessing = true → Runs s
  /-- Nothing that is submitted steers a session without a run. -/
  steers : Quiet s → ∀ input attachments text,
    handleSubmit s.chat.isProcessing input attachments = some (.steer text) → Runs s
  /-- It does not stay set for good. -/
  leaves : Leaves t toLowercase s

theorem truthful_of_attended (h : s.chat.isProcessing = true → Attended s) :
    Truthful t toLowercase s := by
  have htruth : Quiet s → s.chat.isProcessing = true → Runs s := by
    rintro ⟨hup, hdown⟩ hproc
    have h := h hproc
    obtain ⟨sid, hrun⟩ : ∃ sid, s.serving.run = some sid := by
      rcases h.due with ⟨text, images, sid, hmem⟩ | hrun | ⟨v, hmem, -⟩
      · rw [hup] at hmem
        cases hmem
      · exact Option.isSome_iff_exists.mp hrun
      · rw [hdown] at hmem
        cases hmem
    refine ⟨h.opened, sid, hrun, ?_⟩
    rcases h.own sid hrun with hown | hne | ⟨v, hmem, -⟩
    · exact hown
    · exact absurd hup hne
    · rw [hdown] at hmem
      cases hmem
  refine ⟨htruth, fun hq input attachments text hsub ↦ htruth hq (isProcessing_of_steer hsub), ?_⟩
  cases hproc : s.chat.isProcessing with
  | false => exact ⟨[], s, nofun, rfl, hproc⟩
  | true => exact leaves_of_attended (h hproc)

/-- **`isProcessing` tells the truth** in every run in which the connection is not lost while it is
set and no session without an id is loaded while it is set. -/
theorem truthful_of_guarded (hG : Guarded (step t toLowercase) Allowed init as)
    (hrun : exec (step t toLowercase) init as = some s) : Truthful t toLowercase s := by
  have hinv : Named s ∧ (s.chat.isProcessing = true → Attended s) := by
    refine inv_of_guarded (G := Allowed)
      (I := fun s ↦ Named s ∧ (s.chat.isProcessing = true → Attended s)) ?_ ?_ hG hrun
    · exact fun _ _ _ hI hA hstep ↦
        ⟨named_of_step hI.1 hstep, attended_of_step hI.1 hI.2 hA hstep⟩
    · exact ⟨⟨nofun, nofun⟩, nofun⟩
  exact truthful_of_attended hinv.2

/-- The front end connects, gets a session and submits a prompt, which is run. -/
def exampleRun : List Action :=
  [.opened, .serve 32 nilUuid, .created, .deliver ⟨1, 1⟩, .serve 64 nilUuid, .deliver ⟨2, 2⟩,
    .submit ⟨3, 3⟩ "Hi" [], .serve 80 nilUuid, .ready]

theorem truthful_of_guarded_example :
    ∃ s, exec (step .asciiOnly id) init exampleRun = some s ∧ Quiet s ∧
      s.chat.isProcessing = true ∧ Truthful .asciiOnly id s := by
  have hG : Guarded (step .asciiOnly id) Allowed init exampleRun := by
    refine .cons rfl trivial <| .cons rfl trivial <| .cons rfl trivial <| .cons rfl trivial <|
      .cons rfl trivial <| .cons rfl trivial <| .cons rfl ?_ <| .cons rfl trivial <|
      .cons rfl trivial trivial
    exact fun _ _ _ ↦ nofun
  exact ⟨_, rfl, ⟨rfl, rfl⟩, rfl, truthful_of_guarded hG rfl⟩

/-- Another UUID. -/
def otherUuid : Uuid := ⟨"7c9e6679-7425-40de-944b-e07fc1f90ae7", by decide⟩

/-- **The flag stays set** when the connection is lost during a run: after the reconnect all
messages have been handled, the server has no run, and what the user submits steers nothing. -/
theorem exists_isProcessing_of_exec :
    ∃ s, exec (step .asciiOnly id) init (exampleRun ++
        [.closed, .reconnect, .opened, .serve 32 otherUuid, .created, .deliver ⟨9, 9⟩,
          .serve 64 otherUuid, .deliver ⟨9, 9⟩, .serve 64 otherUuid, .deliver ⟨9, 9⟩]) = some s ∧
      Quiet s ∧ s.chat.isProcessing = true ∧ s.serving = .idle ∧ ¬Truthful .asciiOnly id s := by
  refine ⟨_, rfl, ⟨rfl, rfl⟩, rfl, rfl, fun h ↦ ?_⟩
  obtain ⟨-, sid, hrun, -⟩ := h.truth ⟨rfl, rfl⟩ rfl
  cases hrun

end WorkWithMe.Client.Connection
