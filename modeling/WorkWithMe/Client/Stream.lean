import Mathlib
import WorkWithMe.Client.Transcript
import WorkWithMe.Lib.Machine

/-!
# Streaming into the transcript

The back end brackets what the agent says: a message starts, its text and its thinking come in
pieces, the message ends.  `bracketStep` follows the brackets and keeps the messages, as `Block`s;
it fails where a bracket is out of place.  The front end knows nothing of brackets.  It gives an
entry an id made from the clock, ignores a start whose id is taken, adds pieces to whichever entry
is being written, and at an end drops the entries in which there is nothing to see.

The user may submit something at any point, and other events of the agent may come at any point.

* `shown` is what comes of the messages: a message that is blank, or whose id is taken when it
  starts, leaves no trace.
* `Shape` is the invariant that says so of the transcript in the middle of a message.
* `faithful_iff`: when the transcript is what the agent said.
-/

set_option autoImplicit false

namespace WorkWithMe.Client

open Server Machine

/-! ## Brackets -/

/-- A message of the agent, with the time at which its start was handled. -/
structure Block where
  start : ℕ
  text : String
  thinking : String
  deriving DecidableEq

/-- All of its text is white space, and it has no thinking. -/
def Block.isBlank (b : Block) : Bool := trim b.text = "" && b.thinking = ""

/-- What a message and an entry have in common. -/
def Message.said (m : Message) : String × String × String := (m.id, m.content, m.thinkingContent)

@[inherit_doc Message.said]
def Block.said (b : Block) : String × String × String := (asstId b.start, b.text, b.thinking)

theorem isBlank_eq_of_said_eq {m : Message} {b : Block} (h : m.said = b.said) :
    m.isBlank = b.isBlank := by
  rw [Message.said, Block.said, Prod.mk.injEq, Prod.mk.injEq] at h
  obtain ⟨-, hcontent, hthinking⟩ := h
  rw [Message.isBlank, Block.isBlank, hcontent, hthinking]

/-- The messages that have ended, and the one that has not. -/
structure Brackets where
  finished : List Block
  opened : Option Block

namespace Streaming

/-- What happens to the transcript. -/
inductive Action where
  /-- An event of the agent arrives. -/
  | event (c : Clock) (e : AgentEvent)
  /-- A prompt is submitted. -/
  | prompt (c : Clock) (content : String)
  /-- A steering input is submitted. -/
  | steer (c : Clock) (input : String)

/-- Follow the brackets. -/
def bracketStep (s : Brackets) : Action → Option Brackets
  | .event c .messageStart =>
    match s.opened with
    | none => some { s with opened := some ⟨c.now, "", ""⟩ }
    | some _ => none
  | .event _ (.messageUpdate (.textDelta delta)) =>
    s.opened.map fun b ↦ { s with opened := some { b with text := b.text ++ delta } }
  | .event _ (.messageUpdate (.thinkingDelta delta)) =>
    s.opened.map fun b ↦ { s with opened := some { b with thinking := b.thinking ++ delta } }
  | .event _ .messageEnd => s.opened.map fun b ↦ ⟨s.finished ++ [b], none⟩
  | _ => some s

/-- An action of the user. -/
def Action.byUser : Action → Bool
  | .event _ _ => false
  | _ => true

section Run

variable (toLowercase : String → String) (sid : SessionId)

/-- What an action makes of the transcript. -/
def Action.apply (ms : List Message) : Action → List Message
  | .event c e =>
    match (piEventToWsJson toLowercase e sid).bind readEvent with
    | some e => e.onMessages c ms
    | none => ms
  | .prompt c content => addPrompt c content ms
  | .steer c input => addSteering c input ms

/-- The transcript after some actions. -/
def transcript (m₀ : List Message) (as : List Action) : List Message :=
  as.foldl (Action.apply toLowercase sid) m₀

/-- The transcript if the agent had said nothing. -/
def undisturbed (m₀ : List Message) (as : List Action) : List Message :=
  transcript toLowercase sid m₀ (as.filter Action.byUser)

end Run

/-! ## What is shown of the messages -/

/-- The messages that leave a trace, where `ids` are taken from the beginning. -/
def shown (ids : List String) (bs : List Block) : List Block :=
  bs.foldl (fun acc b ↦
    if b.isBlank = true ∨ asstId b.start ∈ ids ∨ b.start ∈ acc.map Block.start then acc
    else acc ++ [b]) []

/-- The id of the message is taken, when the messages `bs` came before it. -/
def Hidden (ids : List String) (bs : List Block) (b : Block) : Prop :=
  asstId b.start ∈ ids ∨ b.start ∈ (shown ids bs).map Block.start

instance (ids : List String) (bs : List Block) (b : Block) : Decidable (Hidden ids bs b) :=
  inferInstanceAs (Decidable (_ ∨ _))

theorem shown_concat (ids : List String) (bs : List Block) (b : Block) :
    shown ids (bs ++ [b]) =
      if b.isBlank = true ∨ Hidden ids bs b then shown ids bs else shown ids bs ++ [b] := by
  rw [shown, List.foldl_append, List.foldl_cons, List.foldl_nil]
  exact if_congr Iff.rfl rfl rfl

/-- The messages in which there is something to see. -/
def visible (bs : List Block) : List Block := bs.filter fun b ↦ !b.isBlank

theorem visible_concat (bs : List Block) (b : Block) :
    visible (bs ++ [b]) = visible bs ++ if b.isBlank = true then [] else [b] := by
  rw [visible, List.filter_append, List.filter_singleton]
  cases b.isBlank <;> rfl

theorem shown_sublist (ids : List String) (bs : List Block) :
    (shown ids bs).Sublist (visible bs) := by
  induction bs using List.reverseRecOn with
  | nil => exact List.Sublist.slnil
  | append_singleton bs b ih =>
    rw [shown_concat, visible_concat]
    by_cases hb : b.isBlank = true
    · rw [if_pos (Or.inl hb), if_pos hb, List.append_nil]
      exact ih
    · rw [if_neg hb]
      split
      · exact ih.trans (List.sublist_append_left _ _)
      · exact ih.append_right [b]

/-- **Every message leaves a trace**, if there is something to see in it, if and only if no two of
these start at the same time and none has an id that is taken. -/
theorem shown_eq_visible_iff {ids : List String} {bs : List Block} :
    shown ids bs = visible bs ↔
      ((visible bs).map Block.start).Nodup ∧ ∀ b ∈ visible bs, asstId b.start ∉ ids := by
  induction bs using List.reverseRecOn with
  | nil => simp [shown, visible]
  | append_singleton bs b ih =>
    rw [shown_concat, visible_concat]
    by_cases hb : b.isBlank = true
    · rw [if_pos (Or.inl hb), if_pos hb, List.append_nil]
      exact ih
    rw [if_neg hb]
    by_cases htaken : Hidden ids bs b
    · rw [if_pos (Or.inr htaken)]
      refine iff_of_false (fun h ↦ ?_) fun h ↦ ?_
      · -- one message more than has left a trace
        have := congrArg List.length h
        have hle := (shown_sublist ids bs).length_le
        rw [List.length_append, List.length_singleton] at this
        omega
      · rcases htaken with hids | hstart
        · exact h.2 b (by simp) hids
        · rw [List.map_append, List.nodup_append] at h
          have hmem := ((shown_sublist ids bs).map Block.start).subset hstart
          exact h.1.2.2 _ hmem _ (by simp) rfl
    · rw [if_neg (not_or.mpr ⟨hb, htaken⟩), List.append_left_inj, ih]
      obtain ⟨hids, hstart⟩ := not_or.mp htaken
      simp only [List.map_append, List.nodup_append, List.mem_append, List.map_cons, List.map_nil,
        List.mem_singleton]
      constructor
      · rintro ⟨hnodup, hfree⟩
        have hshown : shown ids bs = visible bs := ih.mpr ⟨hnodup, hfree⟩
        refine ⟨⟨hnodup, by simp, ?_⟩, ?_⟩
        · rintro n hn _ rfl rfl
          exact hstart (hshown ▸ hn)
        · rintro b' (hb' | rfl)
          · exact hfree b' hb'
          · exact hids
      · exact fun ⟨⟨hnodup, _⟩, hfree⟩ ↦ ⟨hnodup, fun b' hb' ↦ hfree b' (Or.inl hb')⟩

/-! ## Ids -/

theorem asstId_injective {m n : ℕ} (h : asstId m = asstId n) : m = n := by
  rw [asstId, asstId, String.append_right_inj] at h
  exact Nat.repr_injective h

theorem asstId_ne_userId (m n : ℕ) : asstId m ≠ userId n := by
  intro h
  have := congrArg String.toList h
  simp [asstId, userId] at this

theorem asstId_ne_steerId (m n : ℕ) : asstId m ≠ steerId n := by
  intro h
  have := congrArg String.toList h
  simp [asstId, steerId] at this

/-! ## What the handlers do to a part of the transcript -/

section Parts

variable {l r : List Message} {m : Message}

/-- An end leaves alone what is neither being written nor blank. -/
theorem messageEnd_eq_self (hopen : ∀ m ∈ l, m.isStreaming = false)
    (hblank : ∀ m ∈ l, m.role = .assistant → m.isBlank = false) : messageEnd none l = l := by
  rw [messageEnd, List.filterMap_congr (g := some), List.filterMap_some]
  intro m hm
  have hs := hopen m hm
  have hb := hblank m hm
  cases hr : m.role with
  | user => simp [endMessage, Message.isOpen, hr]
  | assistant => simp [endMessage, Message.isOpen, hr, hs, hb hr]

theorem messageEnd_append : messageEnd none (l ++ r) = messageEnd none l ++ messageEnd none r :=
  List.filterMap_append

/-- An end of the entry that is being written. -/
theorem messageEnd_singleton (hm : m.isOpen = true) :
    messageEnd none [m] = if m.isBlank = true then [] else [{ m with isStreaming := false }] := by
  have hrole : m.role = .assistant := by
    rw [Message.isOpen, Bool.and_eq_true] at hm
    simpa using hm.1
  cases hb : m.isBlank
  · simp_all [messageEnd, endMessage, Message.isBlank]
  · simp_all [messageEnd, endMessage, Message.isBlank]

/-- A start in a transcript in which nothing is being written. -/
theorem messageStart_of_settled (c : Clock) (hopen : ∀ m ∈ l, m.isStreaming = false) :
    messageStart none (some "assistant") c l =
      if ∃ m ∈ l, m.id = asstId c.now then l
      else l ++ [{ id := asstId c.now, role := .assistant, content := "", isStreaming := true,
                   timestamp := some c.later }] := by
  rw [messageStart, if_neg (by decide)]
  have hlast : (l.getLast?.any fun last ↦ last.isOpen && last.content = "") = false := by
    cases h : l.getLast? with
    | none => rfl
    | some last => simp [Message.isOpen, hopen last (List.mem_of_getLast? h)]
  simp [hlast]

end Parts

/-! ## The transcript in the middle of a message -/

/-- The transcript `ms`, and the transcript `alone` that there would be without the agent: to what
there was at first, `m₀`, has come `added`, perhaps the entry `cur` that is being written, and what
the user has submitted meanwhile, `after`. -/
structure Shape (m₀ : List Message) (s : Brackets) (ms alone added : List Message)
    (cur : Option Message) (after : List Message) : Prop where
  transcript : ms = m₀ ++ added ++ cur.toList ++ after
  undisturbed : alone = m₀ ++ (added ++ after).filter (·.role = .user)
  settled : ∀ m ∈ added ++ after, m.isStreaming = false
  filled : ∀ m ∈ added, m.role = .assistant → m.isBlank = false
  submitted : ∀ m ∈ after, m.role = .user
  said : (added.filter (·.role = .assistant)).map Message.said =
    (shown (m₀.map Message.id) s.finished).map Block.said
  userIds : ∀ m ∈ added ++ after, m.role = .user → ∀ n, m.id ≠ asstId n
  idle : s.opened = none → cur = none
  hidden : ∀ b, s.opened = some b → Hidden (m₀.map Message.id) s.finished b → cur = none
  writing : ∀ b, s.opened = some b → ¬Hidden (m₀.map Message.id) s.finished b →
    ∃ m, cur = some m ∧ m.isOpen = true ∧ m.said = b.said

namespace Shape

variable {m₀ ms alone added after : List Message} {cur : Option Message} {s t : Brackets}

/-- The transcript at the beginning. -/
theorem init (m₀ : List Message) : Shape m₀ ⟨[], none⟩ m₀ m₀ [] none [] where
  transcript := by simp
  undisturbed := by simp
  settled := by simp
  filled := by simp
  submitted := by simp
  said := rfl
  userIds := by simp
  idle _ := rfl
  hidden := nofun
  writing := nofun

/-- The ids of assistant entries are those of the messages that have left a trace. -/
theorem id_mem_iff (h : Shape m₀ s ms alone added cur after) (n : ℕ) :
    (∃ m ∈ added ++ after, m.id = asstId n) ↔
      n ∈ (shown (m₀.map Message.id) s.finished).map Block.start := by
  have hids := congrArg (List.map Prod.fst) h.said
  rw [List.map_map, List.map_map] at hids
  constructor
  · rintro ⟨m, hm, hid⟩
    have hrole : m.role ≠ .user := fun hr ↦ h.userIds m hm hr n hid
    have hadded : m ∈ added := (List.mem_append.mp hm).resolve_right fun ha ↦
      hrole (h.submitted m ha)
    have hassistant : m.role = .assistant := by
      cases hr : m.role with
      | user => exact absurd hr hrole
      | assistant => rfl
    have : asstId n ∈ (shown (m₀.map Message.id) s.finished).map (Prod.fst ∘ Block.said) := by
      rw [← hids]
      exact List.mem_map.mpr ⟨m, List.mem_filter.mpr ⟨hadded, by simpa using hassistant⟩, hid⟩
    obtain ⟨b, hb, hn⟩ := List.mem_map.mp this
    exact List.mem_map.mpr ⟨b, hb, asstId_injective hn⟩
  · intro hn
    obtain ⟨b, hb, rfl⟩ := List.mem_map.mp hn
    have : asstId b.start ∈ (added.filter (·.role = .assistant)).map (Prod.fst ∘ Message.said) := by
      rw [hids]
      exact List.mem_map.mpr ⟨b, hb, rfl⟩
    obtain ⟨m, hm, hid⟩ := List.mem_map.mp this
    exact ⟨m, List.mem_append.mpr (Or.inl (List.mem_filter.mp hm).1), hid⟩

/-- A message starts. -/
theorem messageStart (h : Shape m₀ s ms alone added cur after) (hs : s.opened = none)
    (hm₀ : ∀ m ∈ m₀, m.isStreaming = false) (c : Clock) :
    ∃ cur, Shape m₀ { s with opened := some ⟨c.now, "", ""⟩ }
      (Client.messageStart none (some "assistant") c ms) alone (added ++ after) cur [] := by
  have hms : ms = m₀ ++ (added ++ after) := by
    rw [h.transcript, h.idle hs]
    simp
  have hopen : ∀ m ∈ ms, m.isStreaming = false := by
    intro m hm
    rw [hms] at hm
    exact (List.mem_append.mp hm).elim (hm₀ m) (h.settled m)
  have htaken : (∃ m ∈ ms, m.id = asstId c.now) ↔
      Hidden (m₀.map Message.id) s.finished ⟨c.now, "", ""⟩ := by
    rw [Hidden, ← h.id_mem_iff, hms]
    simp only [List.mem_append, or_and_right, exists_or, List.mem_map]
  have hfilled : ∀ m ∈ added ++ after, m.role = .assistant → m.isBlank = false := by
    intro m hm hr
    refine (List.mem_append.mp hm).elim (fun ha ↦ h.filled m ha hr) fun ha ↦ ?_
    rw [h.submitted m ha] at hr
    cases hr
  have hsaid : ((added ++ after).filter (·.role = .assistant)).map Message.said =
      (shown (m₀.map Message.id) s.finished).map Block.said := by
    have hafter : after.filter (·.role = .assistant) = [] := by
      refine List.filter_eq_nil_iff.mpr fun m hm ↦ ?_
      simp [h.submitted m hm]
    rw [List.filter_append, hafter, List.append_nil, h.said]
  rw [messageStart_of_settled c hopen]
  split
  · rename_i htk
    exact ⟨none, by simpa using hms, by simpa using h.undisturbed, by simpa using h.settled,
      hfilled, nofun, hsaid, by simpa using h.userIds, fun _ ↦ rfl, fun _ _ _ ↦ rfl,
      fun b hb hh ↦ absurd (by cases hb; exact htaken.mp htk) hh⟩
  · rename_i htk
    refine ⟨some _, by rw [hms, Option.toList_some, List.append_nil, List.append_assoc m₀],
      by simpa using h.undisturbed, by simpa using h.settled, hfilled, nofun, hsaid,
      by simpa using h.userIds, nofun, ?_, ?_⟩
    · intro b hb hh
      cases hb
      exact absurd (htaken.mpr hh) htk
    · intro b hb _
      cases hb
      exact ⟨_, rfl, rfl, rfl⟩

/-- The entry that is being written belongs to the message that has started. -/
theorem of_cur {m : Message} (h : Shape m₀ s ms alone added (some m) after) :
    ∃ b, s.opened = some b ∧ ¬Hidden (m₀.map Message.id) s.finished b ∧ m.isOpen = true ∧
      m.said = b.said := by
  obtain ⟨b, hb⟩ : ∃ b, s.opened = some b := by
    rw [← Option.ne_none_iff_exists']
    intro hnone
    cases h.idle hnone
  have hhidden : ¬Hidden (m₀.map Message.id) s.finished b := by
    intro hh
    cases h.hidden b hb hh
  obtain ⟨m', hm', hopen, hsaid⟩ := h.writing b hb hhidden
  cases hm'
  exact ⟨b, hb, hhidden, hopen, hsaid⟩

theorem isOpen_of_settled {l : List Message} (h : ∀ m ∈ l, m.isStreaming = false) :
    ∀ m ∈ l, m.isOpen = false := by
  intro m hm
  rw [Message.isOpen, h m hm, Bool.and_false]

/-- Something is added to the entry that is being written. -/
theorem update (h : Shape m₀ s ms alone added cur after)
    (hm₀ : ∀ m ∈ m₀, m.isStreaming = false) {f : Message → Message} {g : Block → Block}
    (hf : ∀ m, (f m).isOpen = m.isOpen) (hg : ∀ b, (g b).start = b.start)
    (hfg : ∀ m b, m.said = b.said → (f m).said = (g b).said) :
    Shape m₀ { s with opened := s.opened.map g } (updateLastStreamingMsg ms f) alone added
      (cur.map f) after := by
  have hhidden : ∀ b, Hidden (m₀.map Message.id) s.finished (g b) ↔
      Hidden (m₀.map Message.id) s.finished b := by
    intro b
    rw [Hidden, Hidden, hg]
  have hsettled := h.settled
  rw [List.forall_mem_append] at hsettled
  refine { h with transcript := ?_, idle := ?_, hidden := ?_, writing := ?_ }
  · rw [h.transcript, updateLastStreamingMsg]
    cases cur with
    | none =>
      refine Lists.modifyLast_of_forall_not (isOpen_of_settled ?_)
      simp only [Option.toList_none, List.append_nil, List.forall_mem_append]
      exact ⟨⟨hm₀, hsettled.1⟩, hsettled.2⟩
    | some m =>
      obtain ⟨-, -, -, hopen, -⟩ := h.of_cur
      have := Lists.modifyLast_append_cons (f := f) hopen (isOpen_of_settled hsettled.2)
        (m₀ ++ added)
      simpa using this
  · intro hnone
    rw [h.idle (Option.map_eq_none_iff.mp hnone), Option.map_none]
  · intro b hb hh
    obtain ⟨b', hb', rfl⟩ := Option.map_eq_some_iff.mp hb
    rw [h.hidden b' hb' ((hhidden b').mp hh), Option.map_none]
  · intro b hb hh
    obtain ⟨b', hb', rfl⟩ := Option.map_eq_some_iff.mp hb
    obtain ⟨m, hm, hopen, hsaid⟩ := h.writing b' hb' (mt (hhidden b').mpr hh)
    exact ⟨f m, by rw [hm, Option.map_some], (hf m).trans hopen, hfg m b' hsaid⟩

/-- The user submits something. -/
theorem submit (h : Shape m₀ s ms alone added cur after) {u : Message} (hrole : u.role = .user)
    (hopen : u.isStreaming = false) (hid : ∀ n, u.id ≠ asstId n) :
    Shape m₀ s (ms ++ [u]) (alone ++ [u]) added cur (after ++ [u]) := by
  refine { h with transcript := ?_, undisturbed := ?_, settled := ?_, submitted := ?_,
                  userIds := ?_ }
  · rw [h.transcript, List.append_assoc]
  · rw [h.undisturbed]
    simp [hrole]
  · rw [← List.append_assoc, List.forall_mem_append]
    exact ⟨h.settled, by simpa using hopen⟩
  · rw [List.forall_mem_append]
    exact ⟨h.submitted, by simpa using hrole⟩
  · rw [← List.append_assoc, List.forall_mem_append]
    exact ⟨h.userIds, by simpa using fun _ ↦ hid⟩

/-- Of ids that no entry of the agent has, the agent makes no difference. -/
theorem any_id_eq (h : Shape m₀ s ms alone added cur after) {i : String}
    (hi : ∀ n, asstId n ≠ i) : ms.any (·.id = i) = alone.any (·.id = i) := by
  have hadded : ∀ m ∈ added, m.role = .assistant → m.id ≠ i := by
    intro m hm hr hid
    have : m.said ∈ (added.filter (·.role = .assistant)).map Message.said :=
      List.mem_map.mpr ⟨m, List.mem_filter.mpr ⟨hm, by simpa using hr⟩, rfl⟩
    rw [h.said] at this
    obtain ⟨b, -, hb⟩ := List.mem_map.mp this
    exact hi b.start ((congrArg Prod.fst hb).trans hid)
  have hcur : cur.toList.any (·.id = i) = false := by
    cases cur with
    | none => rfl
    | some m =>
      obtain ⟨b, -, -, -, hsaid⟩ := h.of_cur
      have : m.id = asstId b.start := congrArg Prod.fst hsaid
      simpa [this] using hi b.start
  have huser : ∀ l : List Message, (∀ m ∈ l, m.role = .assistant → m.id ≠ i) →
      (l.filter (·.role = .user)).any (·.id = i) = l.any (·.id = i) := by
    intro l hl
    rw [List.any_filter, Bool.eq_iff_iff, List.any_eq_true, List.any_eq_true]
    refine exists_congr fun m ↦ and_congr_right fun hm ↦ ?_
    cases hr : m.role with
    | user => simp
    | assistant => simp [hl m hm hr]
  rw [h.transcript, h.undisturbed, List.any_append, List.any_append, List.any_append, hcur,
    Bool.or_false, List.any_append, List.filter_append, List.any_append, huser added hadded,
    huser after, Bool.or_assoc]
  intro m hm hr
  rw [h.submitted m hm] at hr
  cases hr

/-- What becomes of the entry that was being written. -/
theorem messageEnd_cur (h : Shape m₀ s ms alone added cur after) {b : Block}
    (hb : s.opened = some b) :
    (∀ m ∈ Client.messageEnd none cur.toList, m.isStreaming = false ∧ m.isBlank = false) ∧
      (∀ m ∈ Client.messageEnd none cur.toList, m.role = .assistant) ∧
      (shown (m₀.map Message.id) (s.finished ++ [b])).map Block.said =
        (shown (m₀.map Message.id) s.finished).map Block.said ++
          (Client.messageEnd none cur.toList).map Message.said := by
  rw [shown_concat]
  by_cases hh : Hidden (m₀.map Message.id) s.finished b
  · rw [h.hidden b hb hh, if_pos (Or.inr hh)]
    exact ⟨nofun, nofun, (List.append_nil _).symm⟩
  obtain ⟨m, hm, hopen, hsaid⟩ := h.writing b hb hh
  have hblank := isBlank_eq_of_said_eq hsaid
  rw [hm, Option.toList_some, messageEnd_singleton hopen, hblank]
  cases hb : b.isBlank with
  | true =>
    rw [if_pos rfl, if_pos (Or.inl rfl)]
    exact ⟨nofun, nofun, (List.append_nil _).symm⟩
  | false =>
    rw [if_neg Bool.false_ne_true, if_neg (not_or.mpr ⟨Bool.false_ne_true, hh⟩), List.map_append]
    rw [Message.isOpen, Bool.and_eq_true] at hopen
    refine ⟨?_, ?_, congrArg _ (congrArg (fun x ↦ [x]) hsaid.symm)⟩
    · exact List.forall_mem_singleton.mpr ⟨rfl, hblank.trans hb⟩
    · exact List.forall_mem_singleton.mpr (of_decide_eq_true hopen.1)

/-- The message ends. -/
theorem messageEnd (h : Shape m₀ s ms alone added cur after)
    (hm₀ : ∀ m ∈ m₀, m.isStreaming = false)
    (hblank : ∀ m ∈ m₀, m.role = .assistant → m.isBlank = false) {b : Block}
    (hb : s.opened = some b) :
    ∃ added,
      Shape m₀ ⟨s.finished ++ [b], none⟩ (Client.messageEnd none ms) alone added none [] := by
  obtain ⟨hadded, hafter⟩ := List.forall_mem_append.mp h.settled
  have hfilled : ∀ m ∈ after, m.role = .assistant → m.isBlank = false := by
    intro m hm hr
    rw [h.submitted m hm] at hr
    cases hr
  have hms : Client.messageEnd none ms =
      m₀ ++ (added ++ Client.messageEnd none cur.toList ++ after) := by
    rw [h.transcript, messageEnd_append, messageEnd_append, messageEnd_append,
      messageEnd_eq_self hm₀ hblank, messageEnd_eq_self hadded h.filled,
      messageEnd_eq_self hafter hfilled]
    simp
  obtain ⟨hsettled, hrole, hsaid⟩ := h.messageEnd_cur hb
  generalize Client.messageEnd none cur.toList = e at hms hsettled hrole hsaid
  have hassistant : e.filter (·.role = .user) = [] := by
    refine List.filter_eq_nil_iff.mpr fun m hm ↦ ?_
    simp [hrole m hm]
  have hafterUser : after.filter (·.role = .assistant) = [] := by
    refine List.filter_eq_nil_iff.mpr fun m hm ↦ ?_
    simp [h.submitted m hm]
  refine ⟨added ++ e ++ after, by simpa using hms, ?_, ?_, ?_, nofun, ?_, ?_, fun _ ↦ rfl, nofun,
    nofun⟩
  · rw [h.undisturbed, List.append_nil, List.filter_append, List.filter_append,
      List.filter_append, hassistant, List.append_nil]
  · simp only [List.append_nil, List.forall_mem_append]
    exact ⟨⟨hadded, fun m hm ↦ (hsettled m hm).1⟩, hafter⟩
  · simp only [List.forall_mem_append]
    exact ⟨⟨h.filled, fun m hm _ ↦ (hsettled m hm).2⟩, hfilled⟩
  · have heq : e.filter (·.role = .assistant) = e :=
      List.filter_eq_self.mpr fun m hm ↦ by simp [hrole m hm]
    rw [List.filter_append, List.filter_append, hafterUser, List.append_nil, heq, List.map_append,
      h.said, hsaid]
  · have huser := List.forall_mem_append.mp h.userIds
    simp only [List.append_nil, List.forall_mem_append]
    refine ⟨⟨huser.1, fun m hm hr ↦ ?_⟩, huser.2⟩
    rw [hrole m hm] at hr
    cases hr

end Shape

/-! ## What an event does -/

/-- What an event makes of the brackets `s` and of the transcript `ms`. -/
inductive Effect (s : Brackets) (ms : List Message) : Action → Brackets → List Message → Prop
  | start (c : Clock) (h : s.opened = none) :
    Effect s ms (.event c .messageStart) { s with opened := some ⟨c.now, "", ""⟩ }
      (messageStart none (some "assistant") c ms)
  | update (c : Clock) (e : AgentEvent) (f : Message → Message) (g : Block → Block)
      (hf : ∀ m, (f m).isOpen = m.isOpen) (hg : ∀ b, (g b).start = b.start)
      (hfg : ∀ m b, m.said = b.said → (f m).said = (g b).said) :
    Effect s ms (.event c e) { s with opened := s.opened.map g } (updateLastStreamingMsg ms f)
  | finish (c : Clock) (b : Block) (h : s.opened = some b) :
    Effect s ms (.event c .messageEnd) ⟨s.finished ++ [b], none⟩ (messageEnd none ms)

section Effect

variable {s t : Brackets} {ms : List Message} {c : Clock} {e : AgentEvent}

/-- Something is added to the entry that is not part of what the agent says. -/
theorem Effect.annotate (f : Message → Message) (hf : ∀ m, (f m).isOpen = m.isOpen)
    (hsaid : ∀ m, (f m).said = m.said) :
    Effect s ms (.event c e) s (updateLastStreamingMsg ms f) := by
  have h : Effect s ms (.event c e) { s with opened := s.opened.map id }
      (updateLastStreamingMsg ms f) :=
    .update c e f id hf (fun _ ↦ rfl) fun m _ h ↦ (hsaid m).trans h
  rwa [Option.map_id, id_eq] at h

/-- Nothing happens. -/
theorem Effect.ignore : Effect s ms (.event c e) s ms := by
  have hid : updateLastStreamingMsg ms id = ms := Lists.modifyLast_eq_self_iff.mpr fun _ _ ↦ rfl
  have h : Effect s ms (.event c e) s (updateLastStreamingMsg ms id) :=
    .annotate id (fun _ ↦ rfl) fun _ ↦ rfl
  rwa [hid] at h

/-- **What an event can do.** -/
theorem effect_of_bracketStep (toLowercase : String → String) (sid : SessionId)
    (h : bracketStep s (.event c e) = some t) :
    Effect s ms (.event c e) t (Action.apply toLowercase sid ms (.event c e)) := by
  rw [Action.apply, readEvent_piEventToWsJson]
  cases e with
  | messageStart =>
    rw [bracketStep] at h
    split at h
    · rename_i hs
      cases h
      exact .start c hs
    · cases h
  | messageUpdate event =>
    cases event with
    | textDelta delta =>
      obtain ⟨b, hb, rfl⟩ := Option.map_eq_some_iff.mp h
      have : Effect s ms _ _ _ := .update c (.messageUpdate (.textDelta delta))
        (fun m ↦ { m with content := m.content ++ delta })
        (fun b ↦ { b with text := b.text ++ delta }) (fun _ ↦ rfl) (fun _ ↦ rfl) ?_
      · rwa [hb] at this
      · simp +contextual [Message.said, Block.said]
    | thinkingDelta delta =>
      obtain ⟨b, hb, rfl⟩ := Option.map_eq_some_iff.mp h
      have : Effect s ms _ _ _ := .update c (.messageUpdate (.thinkingDelta delta))
        (fun m ↦ { m with thinkingContent := m.thinkingContent ++ delta })
        (fun b ↦ { b with thinking := b.thinking ++ delta }) (fun _ ↦ rfl) (fun _ ↦ rfl) ?_
      · rwa [hb] at this
      · simp +contextual [Message.said, Block.said]
    | _ =>
      cases h
      exact .ignore
  | messageEnd =>
    obtain ⟨b, hb, rfl⟩ := Option.map_eq_some_iff.mp h
    exact .finish c b hb
  | toolExecutionStart | toolExecutionUpdate | toolExecutionEnd =>
    cases h
    exact .annotate _ (fun _ ↦ rfl) fun _ ↦ rfl
  | agentEnd | other =>
    cases h
    exact .ignore

end Effect

/-! ## Whole runs -/

section Run

variable {toLowercase : String → String} {sid : SessionId} {m₀ : List Message}
  {as : List Action} {a : Action} {s t : Brackets}

@[simp] theorem transcript_concat :
    transcript toLowercase sid m₀ (as ++ [a]) =
      a.apply toLowercase sid (transcript toLowercase sid m₀ as) := by
  rw [transcript, transcript, List.foldl_append, List.foldl_cons, List.foldl_nil]

theorem undisturbed_event (c : Clock) (e : AgentEvent) :
    undisturbed toLowercase sid m₀ (as ++ [.event c e]) = undisturbed toLowercase sid m₀ as := by
  rw [undisturbed, List.filter_append]
  exact congrArg _ (List.append_nil _)

theorem undisturbed_concat (ha : a.byUser = true) :
    undisturbed toLowercase sid m₀ (as ++ [a]) =
      a.apply toLowercase sid (undisturbed toLowercase sid m₀ as) := by
  rw [undisturbed, List.filter_append, List.filter_singleton, ha]
  exact transcript_concat

variable (toLowercase sid) in
/-- **The transcript has the shape it should have** all along, if there was nothing in it that an
end would change. -/
theorem shape_of_exec (hm₀ : ∀ m ∈ m₀, m.isStreaming = false)
    (h : exec bracketStep ⟨[], none⟩ as = some t)
    (hblank : t.finished ≠ [] → ∀ m ∈ m₀, m.role = .assistant → m.isBlank = false) :
    ∃ added cur after, Shape m₀ t (transcript toLowercase sid m₀ as)
      (undisturbed toLowercase sid m₀ as) added cur after := by
  refine history_of_exec (I := fun as t ↦
    (t.finished ≠ [] → ∀ m ∈ m₀, m.role = .assistant → m.isBlank = false) →
      ∃ added cur after, Shape m₀ t (transcript toLowercase sid m₀ as)
        (undisturbed toLowercase sid m₀ as) added cur after)
    (fun _ ↦ ⟨[], none, [], .init m₀⟩) ?_ h hblank
  intro as s a t ih hstep hblank
  rw [transcript_concat]
  cases a with
  | event c e =>
    rw [undisturbed_event]
    have heffect : Effect s (transcript toLowercase sid m₀ as) _ _ _ :=
      effect_of_bracketStep toLowercase sid hstep
    generalize Action.apply toLowercase sid _ (.event c e) = ms' at heffect ⊢
    cases heffect with
    | start _ hs =>
      obtain ⟨added, cur, after, hshape⟩ := ih hblank
      obtain ⟨cur, hshape⟩ := hshape.messageStart hs hm₀ c
      exact ⟨_, cur, _, hshape⟩
    | update _ _ f g hf hg hfg =>
      obtain ⟨added, cur, after, hshape⟩ := ih hblank
      exact ⟨_, _, _, hshape.update hm₀ hf hg hfg⟩
    | finish _ b hb =>
      have hm₀blank := hblank (by simp)
      obtain ⟨added, cur, after, hshape⟩ := ih fun _ ↦ hm₀blank
      obtain ⟨added, hshape⟩ := hshape.messageEnd hm₀ hm₀blank hb
      exact ⟨added, none, [], hshape⟩
  | prompt c content =>
    cases hstep
    obtain ⟨added, cur, after, hshape⟩ := ih hblank
    have hany := hshape.any_id_eq (i := userId c.now) fun n ↦ asstId_ne_userId n c.now
    rw [undisturbed_concat rfl, Action.apply, Action.apply, addPrompt, addPrompt, hany]
    split
    · exact ⟨_, _, _, hshape⟩
    · exact ⟨_, _, _, hshape.submit rfl rfl fun n h ↦ asstId_ne_userId n c.now h.symm⟩
  | steer c input =>
    cases hstep
    obtain ⟨added, cur, after, hshape⟩ := ih hblank
    rw [undisturbed_concat rfl]
    exact ⟨_, _, _, hshape.submit rfl rfl fun n h ↦ asstId_ne_steerId n c.later h.symm⟩

/-! ## No blank entries -/

/-- No entry of the assistant has ended blank. -/
def Filled (ms : List Message) : Prop :=
  ∀ m ∈ ms, m.role = .assistant → m.isStreaming = false → m.isBlank = false

theorem Filled.append_user {ms : List Message} (h : Filled ms) {u : Message}
    (hu : u.role = .user) : Filled (ms ++ [u]) := by
  refine List.forall_mem_append.mpr ⟨h, List.forall_mem_singleton.mpr fun hr ↦ ?_⟩
  rw [hu] at hr
  cases hr

theorem Filled.messageStart {ms : List Message} (h : Filled ms) (c : Clock) :
    Filled (messageStart none (some "assistant") c ms) := by
  rw [Client.messageStart, if_neg (by decide)]
  dsimp only
  split
  · exact h
  · split
    · intro m hm hrole hopen
      rcases Lists.mem_modifyLast hm with hm | ⟨m', hm', -, rfl⟩
      · exact h m hm hrole hopen
      · exact h m' hm' hrole hopen
    · exact List.forall_mem_append.mpr
        ⟨h, List.forall_mem_singleton.mpr fun _ hopen ↦ nomatch hopen⟩

theorem Filled.update {ms : List Message} (h : Filled ms) {f : Message → Message}
    (hf : ∀ m, (f m).isOpen = m.isOpen) : Filled (updateLastStreamingMsg ms f) := by
  intro m hm hrole hopen
  rcases Lists.mem_modifyLast hm with hm | ⟨m', -, hopen', rfl⟩
  · exact h m hm hrole hopen
  · rw [← hf, Message.isOpen, hopen, Bool.and_false] at hopen'
    cases hopen'

/-- An end drops them. -/
theorem filled_messageEnd (ms : List Message) : Filled (messageEnd none ms) := by
  intro m hm hrole hopen
  obtain ⟨m', -, hm'⟩ := List.mem_filterMap.mp hm
  obtain ⟨hkeep, hm'⟩ := Option.ite_none_right_eq_some.mp hm'
  cases hm'
  rw [hrole, hopen] at hkeep
  simpa using hkeep

/-- **Once a message has ended**, no entry is left that has ended blank. -/
theorem filled_of_exec (h : exec bracketStep ⟨[], none⟩ as = some t) (ht : t.finished ≠ []) :
    Filled (transcript toLowercase sid m₀ as) := by
  refine history_of_exec
    (I := fun as t ↦ t.finished ≠ [] → Filled (transcript toLowercase sid m₀ as))
    (fun h ↦ absurd rfl h) ?_ h ht
  intro as s a t ih hstep ht
  rw [transcript_concat]
  cases a with
  | event c e =>
    have heffect : Effect s (transcript toLowercase sid m₀ as) _ _ _ :=
      effect_of_bracketStep toLowercase sid hstep
    generalize Action.apply toLowercase sid _ (.event c e) = ms' at heffect ⊢
    cases heffect with
    | start _ hs => exact (ih ht).messageStart c
    | update _ _ f g hf hg hfg => exact (ih ht).update hf
    | finish _ b hb => exact filled_messageEnd _
  | prompt c content =>
    cases hstep
    rw [Action.apply, addPrompt]
    split
    · exact ih ht
    · exact (ih ht).append_user rfl
  | steer c input =>
    cases hstep
    exact (ih ht).append_user rfl

/-! ## When the transcript is what the agent said -/

/-- What has been added to the transcript. -/
def added (m₀ ms : List Message) : List Message := ms.drop m₀.length

/-- What the assistant has added. -/
def answers (m₀ ms : List Message) : List Message := (added m₀ ms).filter (·.role = .assistant)

/-- The transcript `ms` that began as `m₀` is what the agent said, and what the user submitted;
`alone` is the transcript without the agent. -/
structure Faithful (m₀ : List Message) (bs : List Block) (alone ms : List Message) : Prop where
  /-- No entry was changed or removed. -/
  kept : m₀ <+: ms
  /-- Nor was anything that the user submitted. -/
  submitted : alone = m₀ ++ (added m₀ ms).filter (·.role = .user)
  /-- Nothing is being written. -/
  settled : ∀ m ∈ ms, m.isStreaming = false
  /-- Each message that is not blank is one entry. -/
  entries : (answers m₀ ms).map (fun m ↦ (m.content, m.thinkingContent)) =
    (visible bs).map fun b ↦ (b.text, b.thinking)
  /-- The text is all the text, that of blank messages apart. -/
  text : String.join ((answers m₀ ms).map Message.content) =
    String.join ((visible bs).map Block.text)
  /-- The thinking is all the thinking. -/
  thinking : String.join ((answers m₀ ms).map Message.thinkingContent) =
    String.join (bs.map Block.thinking)

/-- Nothing in `m₀` is being written, nothing in it is blank if a message ends, and the messages in
which there is something to see start at different times, at none of which an entry of `m₀` was
begun. -/
structure Clean (m₀ : List Message) (bs : List Block) : Prop where
  settled : ∀ m ∈ m₀, m.isStreaming = false
  filled : bs ≠ [] → ∀ m ∈ m₀, m.role = .assistant → m.isBlank = false
  starts : ((visible bs).map Block.start).Nodup
  unused : ∀ b ∈ visible bs, asstId b.start ∉ m₀.map Message.id

/-- Blank messages have no thinking. -/
theorem join_thinking_visible (bs : List Block) :
    String.join ((visible bs).map Block.thinking) = String.join (bs.map Block.thinking) := by
  induction bs with
  | nil => rfl
  | cons b bs ih =>
    rw [visible, List.filter_cons, List.map_cons, String.join_cons, ← ih]
    cases hb : b.isBlank with
    | false => simp [visible]
    | true =>
      have hthinking : b.thinking = "" := by
        rw [Block.isBlank, Bool.and_eq_true] at hb
        simpa using hb.2
      simp [visible, hthinking]

/-- What the assistant has added is what is shown of the messages. -/
theorem Shape.answers_eq {ms alone a after : List Message} {cur : Option Message}
    (h : Shape m₀ s ms alone a cur after) (hs : s.opened = none) :
    added m₀ ms = a ++ after ∧ (answers m₀ ms).map Message.said =
      (shown (m₀.map Message.id) s.finished).map Block.said := by
  have hadded : added m₀ ms = a ++ after := by
    rw [added, h.transcript, h.idle hs, List.append_assoc, List.append_assoc, List.drop_left]
    simp
  have hafter : after.filter (·.role = .assistant) = [] := by
    refine List.filter_eq_nil_iff.mpr fun m hm ↦ ?_
    simp [h.submitted m hm]
  rw [answers, hadded, List.filter_append, hafter, List.append_nil]
  exact ⟨rfl, h.said⟩

/-- What was said, without the ids. -/
theorem map_content_eq {ms : List Message} {bs : List Block}
    (h : ms.map Message.said = bs.map Block.said) :
    ms.map (fun m ↦ (m.content, m.thinkingContent)) = bs.map fun b ↦ (b.text, b.thinking) := by
  have := congrArg (List.map Prod.snd) h
  rwa [List.map_map, List.map_map] at this

/-- **The transcript is what the agent said** if and only if the messages that can be seen start at
different times, and the transcript that they are added to is as it should be. -/
theorem faithful_iff {bs : List Block} (h : exec bracketStep ⟨[], none⟩ as = some ⟨bs, none⟩) :
    Faithful m₀ bs (undisturbed toLowercase sid m₀ as) (transcript toLowercase sid m₀ as) ↔
      Clean m₀ bs := by
  constructor
  · intro hf
    have hm₀ : ∀ m ∈ m₀, m.isStreaming = false := fun m hm ↦ hf.settled m (hf.kept.subset hm)
    have hfilled : bs ≠ [] → ∀ m ∈ m₀, m.role = .assistant → m.isBlank = false :=
      fun hbs m hm hr ↦ filled_of_exec h hbs m (hf.kept.subset hm) hr (hm₀ m hm)
    obtain ⟨a, cur, after, hshape⟩ := shape_of_exec toLowercase sid hm₀ h hfilled
    have hsaid := (hshape.answers_eq rfl).2
    have hlength : (shown (m₀.map Message.id) bs).length = (visible bs).length := by
      have hentries := congrArg List.length hf.entries
      have hshown := congrArg List.length hsaid
      simp only [List.length_map] at hentries hshown
      exact hshown.symm.trans hentries
    have hall := shown_eq_visible_iff.mp ((shown_sublist _ bs).eq_of_length hlength)
    exact ⟨hm₀, hfilled, hall.1, hall.2⟩
  · intro hclean
    obtain ⟨a, cur, after, hshape⟩ := shape_of_exec toLowercase sid hclean.settled h
      hclean.filled
    obtain ⟨hadded, hsaid⟩ := hshape.answers_eq rfl
    rw [shown_eq_visible_iff.mpr ⟨hclean.starts, hclean.unused⟩] at hsaid
    have hentries := map_content_eq hsaid
    have hms := hshape.transcript
    rw [hshape.idle rfl, Option.toList_none, List.append_nil, List.append_assoc] at hms
    refine ⟨⟨_, hms.symm⟩, ?_, ?_, hentries, ?_, ?_⟩
    · rw [hadded]
      exact hshape.undisturbed
    · rw [hms, List.forall_mem_append]
      exact ⟨hclean.settled, hshape.settled⟩
    · have := congrArg (List.map Prod.fst) hentries
      rw [List.map_map, List.map_map] at this
      exact congrArg String.join this
    · have := congrArg (List.map Prod.snd) hentries
      rw [List.map_map, List.map_map] at this
      exact (congrArg String.join this).trans (join_thinking_visible bs)

end Run

/-- An answer that comes in two pieces, between which the user steers. -/
def exampleAnswer : List Action :=
  [.prompt ⟨1, 1⟩ "Hi", .event ⟨5, 6⟩ .messageStart,
    .event ⟨7, 7⟩ (.messageUpdate (.textDelta "Good ")), .steer ⟨8, 8⟩ "In English",
    .event ⟨9, 9⟩ (.messageUpdate (.textDelta "morning")), .event ⟨9, 9⟩ .messageEnd]

theorem faithful_iff_example :
    exec bracketStep ⟨[], none⟩ exampleAnswer = some ⟨[⟨5, "Good morning", ""⟩], none⟩ ∧
      Faithful [] [⟨5, "Good morning", ""⟩] (undisturbed id "s" [] exampleAnswer)
        (transcript id "s" [] exampleAnswer) := by
  refine ⟨rfl, (faithful_iff rfl).mpr ⟨nofun, nofun, ?_, nofun⟩⟩
  exact (List.nodup_singleton 5).sublist ((List.filter_sublist).map Block.start)

/-- Two messages that start in the same millisecond. -/
def exampleTwins : List Action :=
  [.event ⟨5, 5⟩ .messageStart, .event ⟨5, 5⟩ (.messageUpdate (.textDelta "One")),
    .event ⟨5, 5⟩ .messageEnd, .event ⟨5, 5⟩ .messageStart,
    .event ⟨5, 5⟩ (.messageUpdate (.textDelta "Two")), .event ⟨5, 5⟩ .messageEnd]

/-- **Of two messages that start in the same millisecond, the second is lost.** -/
theorem not_faithful_of_exec :
    exec bracketStep ⟨[], none⟩ exampleTwins = some ⟨[⟨5, "One", ""⟩, ⟨5, "Two", ""⟩], none⟩ ∧
      ¬Faithful [] [⟨5, "One", ""⟩, ⟨5, "Two", ""⟩] (undisturbed id "s" [] exampleTwins)
        (transcript id "s" [] exampleTwins) := by
  refine ⟨rfl, fun hf ↦ ?_⟩
  exact absurd hf.entries (by decide)

end Streaming

end WorkWithMe.Client
