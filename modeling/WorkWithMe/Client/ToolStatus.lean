import WorkWithMe.Client.Transcript
import WorkWithMe.Lib.Machine

/-!
# How long the status of a tool is shown

When a tool ends, its status stays for a second: a timer is set that clears it, and a tool that
starts in the meantime clears the timer.  There is one ref for the timer, which has the one that
was set last.

A run is any sequence of events with the times at which they are handled, in which a timer fires a
second after it was set, or later, unless it has been cleared.

* `StatusLaw` is that no timer fires after a start that came after it was set.  It does not hold
  where two tools end before the next one starts: `not_statusLaw`.
* **`statusLaw_of_guarded`** is that it holds in the runs in which every start finds no other timer
  than the one in the ref, and that among the runs that wait for all timers it holds in no others.
-/

set_option autoImplicit false

namespace WorkWithMe.Client

/-! ## The timers -/

/-- A tool starts. -/
def ChatEvent.isToolStart : ChatEvent → Bool
  | .toolExecutionStart _ _ _ _ => true
  | _ => false

/-- A tool ends. -/
def ChatEvent.isToolEnd : ChatEvent → Bool
  | .toolExecutionEnd _ _ _ => true
  | _ => false

/-- The chat, and the clock. -/
structure TimedChat where
  /-- The chat. -/
  chat : Chat
  /-- The time. -/
  now : ℕ
  /-- When each timer was set. -/
  setAt : List ℕ

/-- The page is loaded. -/
def TimedChat.init : TimedChat := ⟨.init, 0, []⟩

/-- What may happen. -/
inductive StatusEvent where
  /-- An event is handled. -/
  | event (c : Clock) (e : ChatEvent)
  /-- A timer fires. -/
  | timeout (now i : ℕ)

/-- A tool starts. -/
def StatusEvent.isToolStart : StatusEvent → Bool
  | .event _ e => e.isToolStart
  | .timeout _ _ => false

/-- A tool ends, and so a timer is set. -/
def StatusEvent.isToolEnd : StatusEvent → Bool
  | .event _ e => e.isToolEnd
  | .timeout _ _ => false

/-- One thing after another.  A timer takes a second, or a little longer. -/
def statusStep (w : TimedChat) : StatusEvent → Option TimedChat
  | .event c e =>
    if w.now ≤ c.now then
      some ⟨w.chat.handle c e, c.now, if e.isToolEnd then w.setAt ++ [c.now] else w.setAt⟩
    else none
  | .timeout now i =>
    if i ∈ w.chat.timeouts ∧ w.now ≤ now ∧ ∀ τ ∈ w.setAt[i]?, τ + 1000 ≤ now then
      some { w with chat := w.chat.timeout i, now := now }
    else none

/-! ## The law -/

/-- No tool has started since the end that has set the timer `i`, which is the end with `i` others
before it. -/
def NoStartSince (as : List StatusEvent) (i : ℕ) : Prop :=
  ∀ pre a mid, as = pre ++ a :: mid → a.isToolEnd = true →
    pre.countP StatusEvent.isToolEnd = i → ∀ b ∈ mid, b.isToolStart = false

/-- **The status is not cleared while a tool runs**: no timer fires after a start that came after it
was set. -/
def StatusLaw (as : List StatusEvent) : Prop :=
  ∀ pre now i post, as = pre ++ .timeout now i :: post → NoStartSince pre i

/-- **What may be done**: a tool starts where no timer is set but the one in the ref. -/
def StartAllowed (w : TimedChat) (a : StatusEvent) : Prop :=
  a.isToolStart = true → ∀ i ∈ w.chat.timeouts, w.chat.toolStatusClearRef = some i

/-! ## One step -/

section Step

variable {w v : TimedChat} {a : StatusEvent}

/-- **What a step does** with the timers. -/
theorem timers_cases (h : statusStep w a = some v) :
    (a.isToolEnd = true ∧ v.chat.timeouts = w.chat.timeouts ++ [w.chat.timeoutCount] ∧
      v.chat.toolStatusClearRef = some w.chat.timeoutCount ∧
        v.chat.timeoutCount = w.chat.timeoutCount + 1) ∨
    a.isToolEnd = false ∧ v.chat.toolStatusClearRef = w.chat.toolStatusClearRef ∧
      v.chat.timeoutCount = w.chat.timeoutCount ∧
        (v.chat.timeouts = w.chat.timeouts ∧ a.isToolStart = false ∨
          v.chat.timeouts = (w.chat.timeouts.filter fun i ↦ w.chat.toolStatusClearRef ≠ some i) ∨
            ∃ now i, a = .timeout now i ∧ i ∈ w.chat.timeouts ∧
              v.chat.timeouts = w.chat.timeouts.erase i) := by
  cases a with
  | event c e =>
    rw [statusStep] at h
    split at h
    case isFalse => cases h
    cases h
    cases e with
    | toolExecutionEnd toolCallId isError result => exact .inl ⟨rfl, rfl, rfl, rfl⟩
    | toolExecutionStart toolCallId toolName args status =>
      exact .inr ⟨rfl, rfl, rfl, .inr (.inl rfl)⟩
    | agentEnd => exact .inr ⟨rfl, rfl, rfl, .inr (.inl rfl)⟩
    | _ => exact .inr ⟨rfl, rfl, rfl, .inl ⟨rfl, rfl⟩⟩
  | timeout now i =>
    rw [statusStep] at h
    split at h
    case isFalse => cases h
    case isTrue hi =>
      cases h
      exact .inr ⟨rfl, rfl, rfl, .inr (.inr ⟨now, i, rfl, hi.1, rfl⟩)⟩

end Step

/-! ## Runs -/

section Runs

variable {as : List StatusEvent} {w v : TimedChat} {a : StatusEvent} {i : ℕ}

/-- A timer is as fresh as before, if no tool starts. -/
theorem NoStartSince.concat (h : NoStartSince as i) (hstart : a.isToolStart = false) :
    NoStartSince (as ++ [a]) i := by
  intro pre b mid heq hb hcount c hc
  induction mid using List.reverseRecOn with
  | nil => cases hc
  | append_singleton mid d _ =>
    rw [← List.cons_append, ← List.append_assoc] at heq
    obtain ⟨heq, hd⟩ := List.append_inj' heq rfl
    rcases List.mem_append.mp hc with hc | hc
    · exact h pre b mid heq hb hcount c hc
    · rw [List.mem_singleton.mp hc, ← List.singleton_inj.mp hd]
      exact hstart

/-- The timer that is set now. -/
theorem noStartSince_end (as : List StatusEvent) (a : StatusEvent) :
    NoStartSince (as ++ [a]) (as.countP StatusEvent.isToolEnd) := by
  intro pre b mid heq hb hcount c hc
  induction mid using List.reverseRecOn with
  | nil => cases hc
  | append_singleton mid d _ =>
    rw [← List.cons_append, ← List.append_assoc] at heq
    rw [(List.append_inj' heq rfl).1, List.countP_append, List.countP_cons_of_pos hb] at hcount
    omega

/-- **The timers are numbered** as the ends are counted. -/
structure TimersKept (as : List StatusEvent) (w : TimedChat) : Prop where
  /-- There have been as many as ends. -/
  count : w.chat.timeoutCount = as.countP StatusEvent.isToolEnd
  /-- The ones that are set have been set before. -/
  lt : ∀ i ∈ w.chat.timeouts, i < w.chat.timeoutCount
  /-- The one in the ref has, too. -/
  ref : ∀ i, w.chat.toolStatusClearRef = some i → i < w.chat.timeoutCount

theorem TimersKept.step (hk : TimersKept as w) (h : statusStep w a = some v) :
    TimersKept (as ++ [a]) v := by
  rcases timers_cases h with ⟨hend, htimeouts, href, hcount⟩ | ⟨hend, href, hcount, htimeouts⟩
  · refine ⟨?_, fun i hi ↦ ?_, fun i hi ↦ ?_⟩
    · rw [hcount, hk.count, List.countP_append, List.countP_singleton, if_pos hend]
    · rw [htimeouts, List.mem_append, List.mem_singleton] at hi
      rw [hcount]
      rcases hi with hi | rfl
      · exact (hk.lt i hi).trans (Nat.lt_succ_self _)
      · exact Nat.lt_succ_self _
    · rw [href] at hi
      cases hi
      omega
  · have hsub : v.chat.timeouts ⊆ w.chat.timeouts := by
      rcases htimeouts with ⟨heq, -⟩ | heq | ⟨now, j, -, -, heq⟩
      · exact heq ▸ List.Subset.refl _
      · exact heq ▸ List.filter_sublist.subset
      · exact heq ▸ List.erase_subset
    refine ⟨?_, fun i hi ↦ hcount ▸ hk.lt i (hsub hi), fun i hi ↦ ?_⟩
    · rw [hcount, hk.count, List.countP_append, List.countP_singleton, hend,
        if_neg Bool.false_ne_true, Nat.add_zero]
    · rw [href] at hi
      rw [hcount]
      exact hk.ref i hi

/-- Every timer that is set is fresh. -/
def Fresh (as : List StatusEvent) (w : TimedChat) : Prop :=
  ∀ i ∈ w.chat.timeouts, NoStartSince as i

/-- **One allowed step**: a start leaves no timer. -/
theorem Fresh.step (hf : Fresh as w) (hk : TimersKept as w) (hallowed : StartAllowed w a)
    (h : statusStep w a = some v) : Fresh (as ++ [a]) v := by
  intro i hi
  rcases timers_cases h with ⟨hend, htimeouts, -, -⟩ | ⟨-, -, -, htimeouts⟩
  · rw [htimeouts, List.mem_append, List.mem_singleton] at hi
    rcases hi with hi | rfl
    · refine (hf i hi).concat ?_
      cases a with
      | event c e => cases e with
        | toolExecutionEnd _ _ _ => rfl
        | _ => cases hend
      | timeout now j => rfl
    · rw [hk.count]
      exact noStartSince_end as a
  · rcases htimeouts with ⟨heq, hstart⟩ | heq | ⟨now, j, rfl, -, heq⟩
    · exact (hf i (heq ▸ hi)).concat hstart
    · rw [heq, List.mem_filter] at hi
      refine (hf i hi.1).concat (Bool.eq_false_iff.mpr fun hstart ↦ ?_)
      exact absurd (hallowed hstart i hi.1) (of_decide_eq_true hi.2)
    · exact (hf i (List.mem_of_mem_erase (heq ▸ hi))).concat rfl

theorem kept_of_exec (hrun : Machine.exec statusStep .init as = some w) :
    TimersKept as w ∧ (Machine.Guarded statusStep StartAllowed .init as → Fresh as w) := by
  refine (Machine.history_of_exec (I := fun as w ↦ Machine.exec statusStep .init as = some w ∧
    TimersKept as w ∧ (Machine.Guarded statusStep StartAllowed .init as → Fresh as w))
    ⟨rfl, ⟨rfl, fun _ h ↦ (by cases h), fun _ h ↦ by cases h⟩, fun _ _ h ↦ by cases h⟩
    (fun as w a v ⟨hrun, hk, hf⟩ h ↦ ?_) hrun).2
  refine ⟨Machine.exec_concat_eq_some.mpr ⟨w, hrun, h⟩, hk.step h, fun hG ↦ ?_⟩
  obtain ⟨hG, hlast⟩ := Machine.guarded_append.mp hG
  exact (hf hG).step hk (hlast w hrun).1 h

theorem statusLaw_of_allowed (hrun : Machine.exec statusStep .init as = some w)
    (hG : Machine.Guarded statusStep StartAllowed .init as) : StatusLaw as := by
  rintro pre now i post rfl
  rw [Machine.exec_append, Option.bind_eq_some_iff] at hrun
  obtain ⟨r, hr, hrest⟩ := hrun
  obtain ⟨v, hv, -⟩ := Machine.exec_cons_eq_some.mp hrest
  have hi : i ∈ r.chat.timeouts := by
    rw [statusStep] at hv
    split at hv
    case isTrue h => exact h.1
    case isFalse => cases hv
  exact (kept_of_exec hr).2 (Machine.guarded_append.mp hG).1 i hi

/-! ## Timers that nothing clears -/

/-- **A timer that is not in the ref** is set until it fires. -/
theorem exists_timeout_of_exec {post : List StatusEvent} {r : TimedChat} (hi : i ∈ w.chat.timeouts)
    (href : w.chat.toolStatusClearRef ≠ some i) (hlt : i < w.chat.timeoutCount)
    (hrun : Machine.exec statusStep w post = some r) (hdone : r.chat.timeouts = []) :
    ∃ mid now rest, post = mid ++ .timeout now i :: rest := by
  induction post generalizing w with
  | nil =>
    cases hrun
    rw [hdone] at hi
    cases hi
  | cons a post ih =>
    obtain ⟨v, hv, hrest⟩ := Machine.exec_cons_eq_some.mp hrun
    have hgo : i ∈ v.chat.timeouts → v.chat.toolStatusClearRef ≠ some i →
        i < v.chat.timeoutCount → ∃ mid now rest, a :: post = mid ++ .timeout now i :: rest := by
      intro hi href hlt
      obtain ⟨mid, now, rest, rfl⟩ := ih hi href hlt hrest
      exact ⟨a :: mid, now, rest, rfl⟩
    rcases timers_cases hv with ⟨-, htimeouts, hnew, hcount⟩ | ⟨-, hsame, hcount, htimeouts⟩
    · refine hgo (htimeouts ▸ List.mem_append_left _ hi) (fun h ↦ ?_) (by omega)
      rw [hnew, Option.some_inj] at h
      omega
    · rcases htimeouts with ⟨heq, -⟩ | heq | ⟨now, j, rfl, -, heq⟩
      · exact hgo (heq ▸ hi) (hsame ▸ href) (hcount ▸ hlt)
      · exact hgo (heq ▸ List.mem_filter.mpr ⟨hi, by simpa using href⟩) (hsame ▸ href)
          (hcount ▸ hlt)
      · by_cases hij : i = j
        · exact ⟨[], now, post, by rw [hij]; rfl⟩
        · exact hgo (heq ▸ (List.mem_erase_of_ne hij).mpr hi) (hsame ▸ href) (hcount ▸ hlt)

/-- Of so many ends, one has `i` before it. -/
theorem exists_end_of_lt (h : i < as.countP StatusEvent.isToolEnd) :
    ∃ pre a mid, as = pre ++ a :: mid ∧ a.isToolEnd = true ∧
      pre.countP StatusEvent.isToolEnd = i := by
  induction as using List.reverseRecOn with
  | nil => cases h
  | append_singleton as a ih =>
    rw [List.countP_append, List.countP_singleton] at h
    by_cases hlt : i < as.countP StatusEvent.isToolEnd
    · obtain ⟨pre, b, mid, rfl, hb, hcount⟩ := ih hlt
      exact ⟨pre, b, mid ++ [a], by simp, hb, hcount⟩
    · have ha : a.isToolEnd = true := by
        by_contra hne
        rw [if_neg hne] at h
        omega
      rw [if_pos ha] at h
      exact ⟨as, a, [], rfl, ha, by omega⟩

theorem allowed_of_statusLaw (hrun : Machine.exec statusStep .init as = some w)
    (hdone : w.chat.timeouts = []) (hlaw : StatusLaw as) :
    Machine.Guarded statusStep StartAllowed .init as := by
  rw [Machine.guarded_iff]
  rintro pre a post r rfl hr hstart i hi
  by_contra href
  obtain ⟨hk, -⟩ := kept_of_exec hr
  rw [Machine.exec_append, hr, Option.bind_some] at hrun
  obtain ⟨mid, now, rest, hmid⟩ := exists_timeout_of_exec hi href (hk.lt i hi) hrun hdone
  obtain ⟨pre', b, mid', rfl, hb, hcount⟩ := exists_end_of_lt (hk.count ▸ hk.lt i hi)
  -- the timer fires after the start, since the start itself is no firing
  obtain ⟨mid, rfl⟩ : ∃ m, mid = a :: m := by
    cases mid with
    | nil =>
      obtain ⟨rfl, -⟩ := List.cons.inj hmid
      cases hstart
    | cons c m => exact ⟨m, by rw [(List.cons.inj hmid).1]⟩
  have hnone := hlaw (pre' ++ b :: mid' ++ a :: mid) now i rest (by rw [hmid]; simp) pre' b
    (mid' ++ a :: mid) (by simp) hb hcount a (by simp)
  rw [hstart] at hnone
  cases hnone

end Runs

/-- **When the status is not cleared while a tool runs.**  In the runs in which every start finds no
other timer than the one in the ref; and of the runs that wait for all timers, in these only. -/
theorem statusLaw_of_guarded (as : List StatusEvent) (w : TimedChat)
    (hrun : Machine.exec statusStep .init as = some w) :
    (Machine.Guarded statusStep StartAllowed .init as → StatusLaw as) ∧
      (w.chat.timeouts = [] → StatusLaw as →
        Machine.Guarded statusStep StartAllowed .init as) :=
  ⟨statusLaw_of_allowed hrun, allowed_of_statusLaw hrun⟩

/-- Two tools end, the second one a tenth of a second after the first; another one starts, and the
timer of the first end fires. -/
def overlappingEnds : List StatusEvent :=
  [.event ⟨0, 0⟩ (.toolExecutionStart "a" "read" none none),
    .event ⟨0, 0⟩ (.toolExecutionStart "b" "read" none none),
    .event ⟨100, 100⟩ (.toolExecutionEnd "a" false none),
    .event ⟨200, 200⟩ (.toolExecutionEnd "b" false none),
    .event ⟨300, 300⟩ (.toolExecutionStart "c" "bash" none none), .timeout 1100 0]

theorem statusLaw_of_guarded_example :
    ∃ w, Machine.exec statusStep .init overlappingEnds = some w ∧
      w.chat.currentToolStatus = none ∧
      (Machine.Guarded statusStep StartAllowed .init overlappingEnds →
        StatusLaw overlappingEnds) ∧
      (w.chat.timeouts = [] → StatusLaw overlappingEnds →
        Machine.Guarded statusStep StartAllowed .init overlappingEnds) := by
  obtain ⟨w, hrun, hstatus⟩ : ∃ w, Machine.exec statusStep .init overlappingEnds = some w ∧
      w.chat.currentToolStatus = none := ⟨_, rfl, rfl⟩
  exact ⟨w, hrun, hstatus, statusLaw_of_guarded overlappingEnds w hrun⟩

/-- The status of the third tool is cleared while it runs. -/
theorem not_statusLaw :
    (∃ w, Machine.exec statusStep .init overlappingEnds = some w ∧
      w.chat.currentToolStatus = none) ∧ ¬ StatusLaw overlappingEnds := by
  refine ⟨⟨_, rfl, rfl⟩, fun hlaw ↦ ?_⟩
  have hnone := hlaw (overlappingEnds.take 5) 1100 0 [] rfl (overlappingEnds.take 2) _
    ((overlappingEnds.take 5).drop 3) rfl rfl rfl
    (.event ⟨300, 300⟩ (.toolExecutionStart "c" "bash" none none)) (by simp [overlappingEnds])
  cases hnone

end WorkWithMe.Client
