import WorkWithMe.Client.Truth

/-!
# What a reconnect leaves of the conversation

When the connection is lost the client tries again, after longer and longer delays, until it has a
connection.  The first thing that it sends on the new one is `new_chat`, as it did on the first one,
and the answer to that is `chat_cleared`, which takes the transcript and the session away.

* `After` follows the new connection from there: what has become of the `new_chat`, and what is
  shown.
* `kept_iff`: the conversation is kept if and only if the server fails to make the new chat.
-/

set_option autoImplicit false

namespace WorkWithMe.Client.Connection

open Server Machine

variable {t : CharTable} {toLowercase : String → String} {s r : State} {a : Action}
  {as : List Action} {sid u : SessionId} {m : List Message} {up : List Outgoing} {down : List Json}

/-! ## Messages that change little -/

/-- The session and the transcript that are shown. -/
def Shows (s : State) (sid : SessionId) (m : List Message) : Prop :=
  s.currentSessionId = some sid ∧ s.chat.messages = m

/-- There is nothing but the joining of sessions. -/
def OnlyJoins (up : List Outgoing) : Prop := ∀ o ∈ up, ∃ sid, o = .join sid

/-- The message changes neither the session nor the transcript. -/
def Harmless (v : Json) : Prop := readEvent v = none ∨ ∃ e, readEvent v = some (.error e)

theorem harmless_error (e : String) : Harmless (Reply.error e).toJson :=
  Or.inr ⟨e, readEvent_error e⟩

theorem harmless_joinAck (sid : SessionId) : Harmless (Reply.joinAck sid).toJson :=
  Or.inl (readEvent_joinAck sid)

theorem OnlyJoins.send (h : OnlyJoins s.up) (sid : SessionId) :
    OnlyJoins (s.send (.join sid)).up := by
  rw [State.send]
  split
  · exact List.forall_mem_append.mpr ⟨h, List.forall_mem_singleton.mpr ⟨sid, rfl⟩⟩
  · exact h

theorem OnlyJoins.setCurrentSessionId (h : OnlyJoins s.up) (sid : Option SessionId) :
    OnlyJoins (s.setCurrentSessionId sid).up := by
  rw [State.setCurrentSessionId]
  split
  · exact h
  · rw [State.join]
    split
    · split
      · exact h
      · refine OnlyJoins.send ?_ _
        exact h
    · exact h

/-- Such a message arrives. -/
theorem onMessage_of_harmless {v : Json} (hv : Harmless v) (c : Clock) :
    (s.onMessage c v).currentSessionId = s.currentSessionId ∧ (s.onMessage c v).up = s.up ∧
      (s.onMessage c v).chat.messages = s.chat.messages := by
  rw [onMessage_chat]
  rcases hv with hread | ⟨e, hread⟩
  · simp only [State.onMessage, Chat.onMessage, hread, and_self]
  · simp only [State.onMessage, Chat.onMessage, hread, Chat.handle_messages,
      ChatEvent.onMessages, and_self]

/-- A session is announced. -/
theorem onMessage_of_chatCleared {v : Json} (hv : readEvent v = some (.chatCleared u)) (c : Clock)
    (hup : OnlyJoins s.up) :
    (s.onMessage c v).currentSessionId = some u ∧ OnlyJoins (s.onMessage c v).up := by
  rw [State.onMessage]
  simp only [hv]
  refine ⟨setCurrentSessionId_currentSessionId _ _, OnlyJoins.setCurrentSessionId ?_ _⟩
  exact hup

/-- The server reads that a session is joined. -/
theorem serve_join (size : ℕ) (u : Uuid) (sid : SessionId) :
    (s.serve t size u (.join sid)).serving = .stopped ∨
      ∃ v, Harmless v ∧ s.serve t size u (.join sid) = s.reply [v] := by
  rcases serve_cases t size u s (.join sid) with ⟨e, h'⟩ | ⟨e, h'⟩ | h'
  · exact Or.inl (by rw [h'])
  · exact Or.inr ⟨_, harmless_error e, h'⟩
  · exact Or.inr ⟨_, harmless_joinAck sid, h'⟩

/-- The server reads that a new chat is wanted. -/
theorem serve_newChat (size : ℕ) (u : Uuid) (cwd : Option String) :
    (s.serve t size u (.newChat cwd)).serving = .stopped ∨
      s.serve t size u (.newChat cwd) = { s with serving := .creating u.text (cwd.getD "") } := by
  by_cases hsize : size ≤ maxMessageSize
  · right
    have hvalid : validateWsMessage t (Outgoing.newChat cwd).envelope = none :=
      (validateWsMessage_eq_none (show "new_chat" ≠ "" by decide)
        (show "new_chat".toList.all _ = true by decide) rfl).mpr
        (show "".utf8ByteSize ≤ 64 by decide)
    rw [State.serve, receive_text hsize (decode_toJson _) hvalid]
    exact dispatch_newChat u s cwd
  · left
    rw [State.serve, receive, if_pos (by omega)]

/-! ## On the new connection -/

/-- What has become of the `new_chat` of the new connection, and what is shown; `failed` says
whether the server could not make the new chat.  `sid` and `m` are what was shown before. -/
inductive After (sid : SessionId) (m : List Message) : Bool → State → Prop
  | asked {s : State} {up : List Outgoing} (hs : s.serving = .idle)
      (hup : s.up = .newChat none :: up) (hjoins : OnlyJoins up) (hdown : s.down = [])
      (hshows : Shows s sid m) : After sid m false s
  | making {s : State} {u : SessionId} {cwd : String} (hs : s.serving = .creating u cwd)
      (hjoins : OnlyJoins s.up) (hdown : ∀ v ∈ s.down, Harmless v) (hshows : Shows s sid m)
      (hu : u ≠ sid) : After sid m false s
  | failed {s : State} (hs : s.serving = .idle) (hjoins : OnlyJoins s.up)
      (hdown : ∀ v ∈ s.down, Harmless v) (hshows : Shows s sid m) : After sid m true s
  | announced {s : State} {u : SessionId} {v : Json} {l l' : List Json} (hs : s.serving = .idle)
      (hjoins : OnlyJoins s.up) (hdown : s.down = l ++ v :: l')
      (hv : readEvent v = some (.chatCleared u)) (hl : ∀ v ∈ l, Harmless v)
      (hl' : ∀ v ∈ l', Harmless v) (hu : u ≠ sid) : After sid m false s
  | cleared {s : State} {u : SessionId} (hs : s.serving = .idle) (hjoins : OnlyJoins s.up)
      (hdown : ∀ v ∈ s.down, Harmless v) (hshown : s.currentSessionId = some u) (hu : u ≠ sid) :
      After sid m false s
  | stopped {s : State} (failed : Bool) (hs : s.serving = .stopped) : After sid m failed s

/-- The connection is open. -/
theorem after_onOpen (h : Shows s sid m) : After sid m false s.onOpen := by
  have hup : s.onOpen.up = .newChat none :: if sid = "" then [] else [.join sid] := by
    rw [State.onOpen, State.join, h.1]
    dsimp only
    split
    · rfl
    · rfl
  refine .asked ?_ hup ?_ ?_ ?_
  · rw [State.onOpen, join_serving]
  · split
    · exact List.forall_mem_nil _
    · exact List.forall_mem_singleton.mpr ⟨sid, rfl⟩
  · rw [State.onOpen, join_down]
  · rw [State.onOpen, Shows, join_chat, join_currentSessionId]
    exact h

/-- Something that says nothing is said. -/
theorem forall_harmless_reply {v : Json} (h : ∀ v ∈ s.down, Harmless v) (hv : Harmless v) :
    ∀ w ∈ (s.reply [v]).down, Harmless w :=
  List.forall_mem_append.mpr ⟨h, List.forall_mem_singleton.mpr hv⟩

/-- A message arrives. -/
theorem After.deliver {failed : Bool} {v : Json} (h : After sid m failed s)
    (hdown : s.down = v :: down) (c : Clock) :
    After sid m failed (State.onMessage { s with down := down } c v) := by
  have hserving := onMessage_serving { s with down := down } c v
  have hdown' := onMessage_down { s with down := down } c v
  have hharmless : Harmless v →
      ((State.onMessage { s with down := down } c v).currentSessionId = s.currentSessionId ∧
        (State.onMessage { s with down := down } c v).up = s.up ∧
        (State.onMessage { s with down := down } c v).chat.messages = s.chat.messages) :=
    fun hv ↦ onMessage_of_harmless (s := { s with down := down }) hv c
  have htail : (∀ w ∈ s.down, Harmless w) → Harmless v ∧ ∀ w ∈ down, Harmless w := by
    rw [hdown]
    exact List.forall_mem_cons.mp
  cases h with
  | asked hs hup hjoins hnone hshows =>
    rw [hnone] at hdown
    cases hdown
  | making hs hjoins hd hshows hu =>
    obtain ⟨hv, hd⟩ := htail hd
    obtain ⟨hsid, hup, hmsgs⟩ := hharmless hv
    exact .making (hserving.trans hs) (by rw [hup]; exact hjoins) (by rw [hdown']; exact hd)
      ⟨hsid.trans hshows.1, hmsgs.trans hshows.2⟩ hu
  | failed hs hjoins hd hshows =>
    obtain ⟨hv, hd⟩ := htail hd
    obtain ⟨hsid, hup, hmsgs⟩ := hharmless hv
    exact .failed (hserving.trans hs) (by rw [hup]; exact hjoins) (by rw [hdown']; exact hd)
      ⟨hsid.trans hshows.1, hmsgs.trans hshows.2⟩
  | @announced _ u w l l' hs hjoins hsplit hw hl hl' hu =>
    cases l with
    | nil =>
      -- this is the message
      rw [hdown] at hsplit
      obtain ⟨rfl, rfl⟩ := List.cons.inj hsplit
      obtain ⟨hsid, hup⟩ := onMessage_of_chatCleared (s := { s with down := down }) hw c hjoins
      exact .cleared (hserving.trans hs) hup (by rw [hdown']; exact hl') hsid hu
    | cons x l =>
      rw [hdown] at hsplit
      obtain ⟨rfl, rfl⟩ := List.cons.inj hsplit
      obtain ⟨hv, hl⟩ := List.forall_mem_cons.mp hl
      obtain ⟨-, hup, -⟩ := hharmless hv
      exact .announced (hserving.trans hs) (by rw [hup]; exact hjoins) hdown' hw hl hl' hu
  | cleared hs hjoins hd hshown hu =>
    obtain ⟨hv, hd⟩ := htail hd
    obtain ⟨hsid, hup, -⟩ := hharmless hv
    exact .cleared (hserving.trans hs) (by rw [hup]; exact hjoins) (by rw [hdown']; exact hd)
      (hsid.trans hshown) hu
  | stopped failed hs => exact .stopped failed (hserving.trans hs)

/-- The server reads a message. -/
theorem After.serve {failed : Bool} {o : Outgoing} (h : After sid m failed s)
    (hs : s.serving = .idle) (hup : s.up = o :: up) (size : ℕ) {u : Uuid} (hu : u.text ≠ sid) :
    After sid m failed (State.serve { s with up := up } t size u o) := by
  have hjoin : OnlyJoins s.up → OnlyJoins up ∧ ∃ x, o = .join x := by
    rw [hup]
    exact fun h ↦ ⟨(List.forall_mem_cons.mp h).2, (List.forall_mem_cons.mp h).1⟩
  cases h with
  | asked _ hup' hjoins hdown hshows =>
    rw [hup] at hup'
    obtain ⟨rfl, rfl⟩ := List.cons.inj hup'
    rcases serve_newChat (t := t) (s := { s with up := up }) size u none with hstop | heq
    · exact .stopped false hstop
    · rw [heq]
      refine .making rfl hjoins ?_ hshows hu
      rw [hdown]
      exact nofun
  | failed _ hjoins hd hshows =>
    obtain ⟨hjoins, x, rfl⟩ := hjoin hjoins
    rcases serve_join (t := t) (s := { s with up := up }) size u x with hstop | ⟨v, hv, heq⟩
    · exact .stopped true hstop
    · rw [heq]
      exact .failed hs hjoins (forall_harmless_reply hd hv) hshows
  | @announced _ u' w l l' _ hjoins hsplit hw hl hl' hu' =>
    obtain ⟨hjoins, x, rfl⟩ := hjoin hjoins
    rcases serve_join (t := t) (s := { s with up := up }) size u x with hstop | ⟨v, hv, heq⟩
    · exact .stopped false hstop
    · rw [heq]
      refine .announced (l := l) hs hjoins ?_ hw hl
        (List.forall_mem_append.mpr ⟨hl', List.forall_mem_singleton.mpr hv⟩) hu'
      rw [State.reply]
      dsimp only
      rw [hsplit, List.append_assoc, List.cons_append]
  | cleared _ hjoins hd hshown hu' =>
    obtain ⟨hjoins, x, rfl⟩ := hjoin hjoins
    rcases serve_join (t := t) (s := { s with up := up }) size u x with hstop | ⟨v, hv, heq⟩
    · exact .stopped false hstop
    · rw [heq]
      exact .cleared hs hjoins (forall_harmless_reply hd hv) hshown hu'
  | making hmaking =>
    rw [hs] at hmaking
    cases hmaking
  | stopped failed hstop =>
    rw [hs] at hstop
    cases hstop

/-- The action is that the new chat cannot be made. -/
def Action.isFailure : Action → Bool
  | .createFailed _ => true
  | _ => false

/-- **The step lemma** for the new connection. -/
theorem after_of_step {failed : Bool} (h : After sid m failed s) (ha : a.bySystem = true)
    (hfresh : ∀ size u, a = .serve size u → u.text ≠ sid)
    (hstep : step t toLowercase s a = some r) : After sid m (failed || a.isFailure) r := by
  have hserving : s.serving = .idle ∨ (∃ u cwd, s.serving = .creating u cwd) ∨
      s.serving = .stopped := by
    cases h with
    | making hs => exact Or.inr (Or.inl ⟨_, _, hs⟩)
    | stopped _ hs => exact Or.inr (Or.inr hs)
    | asked hs | failed hs | announced hs | cleared hs => exact Or.inl hs
  cases step_cases hstep with
  | deliver c hdown =>
    change After sid m (failed || false) _
    rw [Bool.or_false]
    exact h.deliver hdown c
  | serve size u hs hup =>
    change After sid m (failed || false) _
    rw [Bool.or_false]
    exact h.serve hs hup size (hfresh size u rfl)
  | created hs =>
    cases h with
    | making hs' hjoins hd hshows hu =>
      rw [hs] at hs'
      cases hs'
      exact .announced rfl hjoins rfl rfl hd (List.forall_mem_nil _) hu
    | asked hs' | failed hs' | announced hs' | cleared hs' | stopped _ hs' =>
      rw [hs] at hs'
      cases hs'
  | createFailed e hs =>
    cases h with
    | making hs' hjoins hd hshows hu =>
      exact .failed rfl hjoins (forall_harmless_reply hd (Or.inr ⟨_, rfl⟩)) hshows
    | asked hs' | failed hs' | announced hs' | cleared hs' | stopped _ hs' =>
      rw [hs] at hs'
      cases hs'
  | ready hs' | openFails e hs' | forward e hs' | finish error hs' | label text hs' =>
    -- there is no run
    rw [hs'] at hserving
    rcases hserving with hs | ⟨u, cwd, hs⟩ | hs <;> cases hs
  | _ => cases ha

/-! ## The reconnect -/

/-- The connection is lost, and after `k` attempts that fail there is another one. -/
def reconnecting (k : ℕ) : List Action :=
  .closed :: ((List.replicate k [Action.reconnect, .closed]).flatten ++ [.reconnect, .opened])

/-- What is shown stays while there is no connection. -/
theorem shows_of_step (h : Shows s sid m) (ha : a = .closed ∨ a = .reconnect)
    (hstep : step t toLowercase s a = some r) : Shows r sid m := by
  rcases ha with rfl | rfl
  · cases step_cases hstep with
    | closed => exact h
  · cases step_cases hstep with
    | reconnect => exact h

/-- There is a new connection in the end. -/
theorem after_of_reconnecting {k : ℕ} (h : Shows s sid m)
    (hrun : exec (step t toLowercase) s (reconnecting k) = some r) : After sid m false r := by
  have hsplit : reconnecting k =
      (.closed :: ((List.replicate k [Action.reconnect, .closed]).flatten ++ [.reconnect])) ++
        [.opened] := by
    simp [reconnecting]
  rw [hsplit, exec_concat_eq_some] at hrun
  obtain ⟨q, hrun, hstep⟩ := hrun
  have hq : Shows q sid m := by
    refine inv_of_guarded (G := fun _ a ↦ a = .closed ∨ a = .reconnect) (I := fun s ↦ Shows s sid m)
      (fun _ _ _ h ha hstep ↦ shows_of_step h ha hstep) h
      (guarded_of_forall_mem (fun a ha _ ↦ ?_) s) hrun
    simp only [List.mem_cons, List.mem_append, List.mem_flatten, List.mem_replicate,
      List.not_mem_nil, or_false] at ha
    rcases ha with rfl | ⟨l, ⟨-, rfl⟩, ha⟩ | rfl
    · exact Or.inl rfl
    · simpa [or_comm] using ha
    · exact Or.inr rfl
  obtain ⟨-, hstep⟩ := Option.ite_none_right_eq_some.mp hstep
  cases hstep
  exact after_onOpen hq

/-- What comes after it. -/
theorem after_of_exec {failed : Bool} (h : After sid m failed s)
    (has : ∀ a ∈ as, a.bySystem = true)
    (hfresh : ∀ size u, .serve size u ∈ as → u.text ≠ sid)
    (hrun : exec (step t toLowercase) s as = some r) :
    After sid m (failed || as.any Action.isFailure) r := by
  induction as generalizing s failed with
  | nil =>
    cases hrun
    rw [List.any_nil, Bool.or_false]
    exact h
  | cons a as ih =>
    obtain ⟨q, hstep, hrun⟩ := exec_cons_eq_some.mp hrun
    obtain ⟨ha, has⟩ := List.forall_mem_cons.mp has
    have hq := after_of_step h ha (fun size u hu ↦ hfresh size u (hu ▸ List.mem_cons_self)) hstep
    rw [List.any_cons, ← Bool.or_assoc]
    exact ih hq has (fun size u hu ↦ hfresh size u (List.mem_cons_of_mem a hu)) hrun

/-- **A reconnect keeps the conversation** if and only if the server fails to make the new chat that
the client asks for when the connection opens.  Afterwards all messages have been handled, and ids
of new sessions are new. -/
theorem kept_iff {k : ℕ} (hsid : s.currentSessionId = some sid)
    (hrun : exec (step t toLowercase) s (reconnecting k ++ as) = some r)
    (has : ∀ a ∈ as, a.bySystem = true)
    (hfresh : ∀ size u, .serve size u ∈ as → u.text ≠ sid) (hquiet : Quiet r)
    (hidle : r.serving = .idle) :
    (r.currentSessionId = some sid ∧ s.chat.messages <+: r.chat.messages) ↔
      ∃ e, .createFailed e ∈ as := by
  rw [exec_append, Option.bind_eq_some_iff] at hrun
  obtain ⟨q, hq, hrun⟩ := hrun
  have hafter := after_of_exec (after_of_reconnecting ⟨hsid, rfl⟩ hq) has hfresh hrun
  rw [Bool.false_or] at hafter
  have hany : as.any Action.isFailure = true ↔ ∃ e, .createFailed e ∈ as := by
    rw [List.any_eq_true]
    constructor
    · rintro ⟨a, ha, hfail⟩
      cases a with
      | createFailed e => exact ⟨e, ha⟩
      | _ => cases hfail
    · exact fun ⟨e, he⟩ ↦ ⟨_, he, rfl⟩
  rw [← hany]
  generalize as.any Action.isFailure = failed at hafter
  cases hafter with
  | asked hs hup =>
    rw [hquiet.1] at hup
    cases hup
  | making hs =>
    rw [hidle] at hs
    cases hs
  | failed hs hjoins hd hshows =>
    have hkept : s.chat.messages <+: r.chat.messages := hshows.2 ▸ List.prefix_rfl
    exact iff_of_true ⟨hshows.1, hkept⟩ rfl
  | announced hs hjoins hsplit =>
    rw [hquiet.2] at hsplit
    simp at hsplit
  | cleared hs hjoins hd hshown hu =>
    refine iff_of_false (fun h ↦ hu ?_) Bool.false_ne_true
    rw [h.1] at hshown
    exact (Option.some.inj hshown).symm
  | stopped _ hs =>
    rw [hidle] at hs
    cases hs

/-- A session is shown, and an answer in it. -/
def exampleConversation : List Action :=
  exampleRun ++ [.forward .messageStart, .forward (.messageUpdate (.textDelta "Hello")),
    .forward .messageEnd, .finish none, .label none, .deliver ⟨4, 4⟩, .deliver ⟨5, 5⟩,
    .deliver ⟨6, 6⟩, .deliver ⟨7, 7⟩]

/-- There is no key for the provider any more. -/
def exampleFailure : List Action :=
  [.serve 32 otherUuid, .createFailed "no key", .serve 64 otherUuid, .deliver ⟨9, 9⟩,
    .deliver ⟨9, 9⟩]

theorem kept_iff_example :
    ∃ s r, exec (step .asciiOnly id) init exampleConversation = some s ∧
      s.chat.messages.length = 2 ∧
      exec (step .asciiOnly id) s (reconnecting 1 ++ exampleFailure) = some r ∧
      r.currentSessionId = some nilUuid.text ∧ s.chat.messages <+: r.chat.messages := by
  obtain ⟨s, hs, hlen, hsid, r, hr, hquiet, hidle⟩ : ∃ s,
      exec (step .asciiOnly id) init exampleConversation = some s ∧ s.chat.messages.length = 2 ∧
        s.currentSessionId = some nilUuid.text ∧ ∃ r,
          exec (step .asciiOnly id) s (reconnecting 1 ++ exampleFailure) = some r ∧ Quiet r ∧
            r.serving = .idle := ⟨_, rfl, rfl, rfl, _, rfl, ⟨rfl, rfl⟩, rfl⟩
  refine ⟨s, r, hs, hlen, hr, (kept_iff hsid hr ?_ ?_ hquiet hidle).mpr ⟨"no key", ?_⟩⟩
  · simp [exampleFailure, Action.bySystem]
  · intro size u hmem
    have hu : u = otherUuid := by
      rcases (by simpa [exampleFailure] using hmem : _ ∨ _) with ⟨-, rfl⟩ | ⟨-, rfl⟩
      · rfl
      · rfl
    rw [hu]
    decide
  · simp [exampleFailure]

/-- **The conversation is gone** after a reconnect. -/
theorem not_kept_of_exec :
    ∃ s r, exec (step .asciiOnly id) init exampleConversation = some s ∧
      s.currentSessionId = some nilUuid.text ∧ s.chat.messages.length = 2 ∧
      exec (step .asciiOnly id) s (reconnecting 0 ++
        [.serve 32 otherUuid, .created, .deliver ⟨9, 9⟩, .serve 64 otherUuid, .deliver ⟨9, 9⟩,
          .serve 64 otherUuid, .deliver ⟨9, 9⟩]) = some r ∧
      Quiet r ∧ r.serving = .idle ∧
      ¬(r.currentSessionId = some nilUuid.text ∧ s.chat.messages <+: r.chat.messages) := by
  refine ⟨_, _, rfl, rfl, rfl, rfl, ⟨rfl, rfl⟩, rfl, fun h ↦ ?_⟩
  exact absurd (Option.some.inj h.1) (by decide)

end WorkWithMe.Client.Connection
