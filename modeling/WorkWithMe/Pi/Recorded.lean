import WorkWithMe.Pi.CompactionLaws
import WorkWithMe.Pi.ProtocolLaws

/-!
# Conversations that are recorded

The entries that an agent adds to a session are turns: the results of calls are directly behind the
reply that has them.  Other entries may come between the turns.

* `Recorded.conversation`: what a provider gets of such entries is a conversation.
* `Recorded.of_append_cons`: it may be cut wherever what comes next is not the result of a call.
* `compacted`, `compaction_conversation`: what a compaction leaves of a path, whenever it is
  applied.
-/

set_option autoImplicit false

namespace WorkWithMe.Pi

variable {l l' entries kept : List SessionEntry} {e b : SessionEntry} {a : AssistantMessage}

/-! ## Entries -/

/-- The entry is a reply or the result of a call. -/
def SessionEntry.isTurnPart (e : SessionEntry) : Bool :=
  match e.payload with
  | .message (.assistant _) | .message (.toolResult _) => true
  | _ => false

/-- The entry is the result of a call. -/
def SessionEntry.isResult (e : SessionEntry) : Bool :=
  match e.payload with
  | .message (.toolResult _) => true
  | _ => false

/-- **Entries in which each reply with calls has their results directly behind it**, unless it
failed. -/
inductive Recorded : List SessionEntry → Prop where
  | nil : Recorded []
  | other {l : List SessionEntry} {e : SessionEntry} (h : Recorded l) (he : e.isTurnPart = false) :
    Recorded (l ++ [e])
  | reply {l : List SessionEntry} {e : SessionEntry} {a : AssistantMessage} (h : Recorded l)
      (he : e.payload = .message (.assistant a)) (ha : a.failed = true ∨ a.calls = []) :
    Recorded (l ++ [e])
  | calls {l rs : List SessionEntry} {e : SessionEntry} {a : AssistantMessage}
      {results : List ToolResultMessage} (h : Recorded l)
      (he : e.payload = .message (.assistant a))
      (hrs : rs.map SessionEntry.payload = results.map fun r ↦ .message (.toolResult r))
      (hresults : results.map ToolResultMessage.key = a.calls.map ToolCall.key) :
    Recorded (l ++ e :: rs)

theorem Recorded.append (hl : Recorded l) (hl' : Recorded l') : Recorded (l ++ l') := by
  induction hl' with
  | nil => simpa using hl
  | other _ he ih => rw [← List.append_assoc]; exact ih.other he
  | reply _ he ha ih => rw [← List.append_assoc]; exact ih.reply he ha
  | calls _ he hrs hresults ih => rw [← List.append_assoc]; exact ih.calls he hrs hresults

theorem SessionEntry.isResult_of_payload {results : List ToolResultMessage}
    (h : l.map SessionEntry.payload = results.map fun r ↦ .message (.toolResult r)) (hb : b ∈ l) :
    b.isResult = true := by
  have hmem : b.payload ∈ l.map SessionEntry.payload := List.mem_map_of_mem hb
  rw [h] at hmem
  obtain ⟨r, -, hr⟩ := List.mem_map.mp hmem
  rw [isResult, ← hr]

/-! ## Messages -/

/-- The message of an entry that is neither a reply nor a result is an input. -/
theorem isInput_modelMessage (he : e.isTurnPart = false) :
    ∀ m ∈ e.modelMessage, m.isInput = true := by
  obtain ⟨id, parentId, payload⟩ := e
  intro m hm
  cases payload with
  | message message =>
    cases message with
    | assistant a => cases he
    | toolResult r => cases he
    | bashExecution x =>
      simp only [SessionEntry.modelMessage, sessionMessageToModel] at hm
      split at hm
      · cases hm
      · cases hm
        rfl
    | _ => cases hm; rfl
  | branchSummary => cases hm; rfl
  | _ => cases hm

theorem modelMessages_results {results : List ToolResultMessage}
    (h : l.map SessionEntry.payload = results.map fun r ↦ .message (.toolResult r)) :
    modelMessages l = results.map .toolResult := by
  induction l generalizing results with
  | nil =>
    obtain rfl : results = [] := List.map_eq_nil_iff.mp h.symm
    rfl
  | cons e l ih =>
    cases results with
    | nil => cases h
    | cons r results =>
      obtain ⟨he, hl⟩ := List.cons.inj h
      rw [modelMessages_cons, ih hl, SessionEntry.modelMessage, he]
      rfl

/-- **What a provider gets of recorded turns** is a conversation. -/
theorem Recorded.conversation (h : Recorded l) : Conversation (modelMessages l) := by
  induction h with
  | nil => exact .nil
  | @other l e _ he ih =>
    rw [modelMessages_append]
    cases hm : e.modelMessage with
    | none => simpa [modelMessages, hm] using ih
    | some m =>
      have hone : modelMessages [e] = [m] := by simp [modelMessages, hm]
      rw [hone]
      exact ih.input (isInput_modelMessage he m hm)
  | @reply l e a _ he ha ih =>
    have hone : modelMessages [e] = [.assistant a] := by
      simp [modelMessages, SessionEntry.modelMessage, he, sessionMessageToModel]
    rw [modelMessages_append, hone]
    exact ih.reply ha
  | @calls l rs e a results _ he hrs hresults ih =>
    have hone : e.modelMessage = some (.assistant a) := by
      simp [SessionEntry.modelMessage, he, sessionMessageToModel]
    rw [modelMessages_append, modelMessages_cons, hone, modelMessages_results hrs]
    exact ih.calls hresults

/-! ## Cuts -/

/-- Where a list of two parts is cut. -/
theorem append_eq_append_cons {α : Type} {l l' r t : List α} {b : α}
    (h : l ++ t = l' ++ b :: r) : (∃ x, l = l' ++ b :: x ∧ r = x ++ t) ∨ ∃ x, t = x ++ b :: r := by
  obtain ⟨x, hl, hr⟩ | ⟨x, hl, ht⟩ := List.append_eq_append_iff.mp h
  · exact .inr ⟨x, hr⟩
  · cases x with
    | nil => exact .inr ⟨[], ht.symm⟩
    | cons c x =>
      obtain ⟨rfl, rfl⟩ := List.cons.inj ht
      exact .inl ⟨x, hl, rfl⟩

/-- **Recorded turns may be cut** where what comes next is not the result of a call. -/
theorem Recorded.of_append_cons {l r : List SessionEntry} (h : Recorded (l ++ b :: r))
    (hb : b.isResult = false) : Recorded (b :: r) := by
  generalize hall : l ++ b :: r = all at h
  induction h generalizing r with
  | nil => simp at hall
  | @other l' e h he ih =>
    rcases append_eq_append_cons hall.symm with ⟨x, hl, rfl⟩ | ⟨x, hx⟩
    · exact (ih hl.symm).other he
    · obtain ⟨rfl, hx⟩ : x = [] ∧ e = b ∧ r = [] := by
        cases x with
        | nil => simpa using hx
        | cons c x => simp at hx
      obtain ⟨rfl, rfl⟩ := hx
      exact Recorded.nil.other he
  | @reply l' e a h he ha ih =>
    rcases append_eq_append_cons hall.symm with ⟨x, hl, rfl⟩ | ⟨x, hx⟩
    · exact (ih hl.symm).reply he ha
    · obtain ⟨rfl, rfl, rfl⟩ : x = [] ∧ e = b ∧ r = [] := by
        cases x with
        | nil => simpa using hx
        | cons c x => simp at hx
      exact Recorded.nil.reply he ha
  | @calls l' rs e a results h he hrs hresults ih =>
    rcases append_eq_append_cons hall.symm with ⟨x, hl, rfl⟩ | ⟨x, hx⟩
    · exact (ih hl.symm).calls he hrs hresults
    · cases x with
      | nil =>
        obtain ⟨rfl, rfl⟩ := List.cons.inj hx
        exact Recorded.nil.calls he hrs hresults
      | cons c x =>
        obtain ⟨-, rfl⟩ := List.cons.inj hx
        have := SessionEntry.isResult_of_payload hrs (b := b) (by simp)
        rw [hb] at this
        cases this

theorem CutSafe.isResult (h : CutSafe kept) : ∃ b rest, kept = b :: rest ∧ b.isResult = false := by
  obtain ⟨notes, b, rest, rfl, hnotes, hb⟩ := h
  cases notes with
  | nil =>
    refine ⟨b, rest, rfl, ?_⟩
    obtain ⟨id, parentId, payload⟩ := b
    cases payload with
    | message m => cases m <;> first | rfl | cases hb
    | _ => rfl
  | cons c notes =>
    refine ⟨c, notes ++ b :: rest, rfl, ?_⟩
    have hc := hnotes c (by simp)
    obtain ⟨id, parentId, payload⟩ := c
    cases payload <;> first | rfl | cases hc

/-! ## Compactions -/

/-- What a provider gets of a path that ends with a compaction. -/
theorem toMessagesFromPath_compaction {pre post : List SessionEntry} {c : Compaction}
    (he : e.compaction? = some c) (hb : b.id = some c.firstKeptEntryId)
    (hpre : ∀ a ∈ pre, a.id ≠ b.id) :
    toMessagesFromPath (pre ++ b :: post ++ [e]) = c.message :: modelMessages (b :: post) := by
  have hmessage : e.modelMessage = none := by
    obtain ⟨id, parentId, payload⟩ := e
    cases payload <;> first | rfl | cases he
  rw [toMessagesFromPath_eq, keptPart_compaction he hb hpre, lastCompaction_concat, he,
    modelMessages_append]
  simp [modelMessages, hmessage]

/-- Something was prepared for an earlier part of the path, and turns have come since. -/
def Prepared (path : List SessionEntry) (settings : CompactionSettings)
    (p : CompactionPreparation) : Prop :=
  ∃ entries l, path = entries ++ l ∧ Recorded entries ∧ Recorded l ∧
    prepareCompaction entries settings = some p

theorem Prepared.append {settings : CompactionSettings} {p : CompactionPreparation}
    (h : Prepared entries settings p) (hl : Recorded l) : Prepared (entries ++ l) settings p := by
  obtain ⟨old, since, rfl, hold, hsince, hp⟩ := h
  exact ⟨old, since ++ l, List.append_assoc .., hold, hsince.append hl, hp⟩

/-- How a path is cut that ends with a compaction for which something was prepared. -/
theorem CompactionPreparation.Divides.cut {p : CompactionPreparation}
    {old history turn : List SessionEntry} (h : p.Divides entries old history turn kept)
    (hnodup : (entries.map SessionEntry.key).Nodup) :
    ∃ b rest, kept = b :: rest ∧ b.isResult = false ∧ b.id = some p.firstKeptEntryId ∧
      ∀ a ∈ old ++ history ++ turn, a.id ≠ b.id := by
  obtain ⟨b, rest, rfl, hb⟩ := h.safe.isResult
  obtain ⟨b', rest', hkept, hid⟩ := h.keptStart
  obtain ⟨rfl, -⟩ := List.cons.inj hkept
  refine ⟨b, rest, rfl, hb, hid, fun a ha heq ↦ ?_⟩
  rw [h.entries, List.map_append, List.map_cons, List.nodup_append] at hnodup
  refine hnodup.2.2 _ (List.mem_map_of_mem ha) _ List.mem_cons_self ?_
  rw [SessionEntry.key, heq, SessionEntry.key]

/-- **A path that ends with a compaction**: what was to be kept comes behind the summary, and then
what was added since the compaction was prepared. -/
theorem compacted {settings : CompactionSettings} {p : CompactionPreparation} {c : Compaction}
    (hnodup : (entries.map SessionEntry.key).Nodup) (hentries : Recorded entries)
    (hp : prepareCompaction entries settings = some p) (hl : Recorded l)
    (he : e.compaction? = some c) (hc : c.firstKeptEntryId = p.firstKeptEntryId) :
    ∃ old history turn kept, p.Divides entries old history turn kept ∧
      toMessagesFromPath (entries ++ l ++ [e]) = c.message :: modelMessages (kept ++ l) ∧
      Recorded (kept ++ l) ∧ Resolved (entries ++ l ++ [e]) := by
  obtain ⟨old, history, turn, kept, hdivides⟩ := prepareCompaction_divides hp
  obtain ⟨b, rest, rfl, hb, hid, hpre⟩ := hdivides.cut hnodup
  have hall := hdivides.entries
  rw [← hc] at hid
  refine ⟨old, history, turn, b :: rest, hdivides, ?_, ?_, ?_⟩
  · rw [hall, List.append_assoc _ (b :: rest) l]
    exact toMessagesFromPath_compaction he hid hpre
  · rw [hall] at hentries
    exact (hentries.of_append_cons hb).append hl
  · intro q hq
    rw [lastCompaction_concat, he] at hq
    cases hq
    rw [hall]
    simp [Compaction.isFirstKept, hid]

/-- **What a compaction leaves** of a path: the summary, then all that was to be kept, and all that
was added since it was prepared.  It is a conversation again. -/
theorem compaction_conversation {settings : CompactionSettings} {p : CompactionPreparation}
    {c : Compaction} (hnodup : (entries.map SessionEntry.key).Nodup) (hentries : Recorded entries)
    (hp : prepareCompaction entries settings = some p) (hl : Recorded l)
    (he : e.compaction? = some c) (hc : c.firstKeptEntryId = p.firstKeptEntryId) :
    ∃ old history turn kept, p.Divides entries old history turn kept ∧
      toMessagesFromPath (entries ++ l ++ [e]) = c.message :: modelMessages (kept ++ l) ∧
      Conversation (toMessagesFromPath (entries ++ l ++ [e])) := by
  obtain ⟨old, history, turn, kept, hdivides, hmessages, hkept, -⟩ :=
    compacted hnodup hentries hp hl he hc
  refine ⟨old, history, turn, kept, hdivides, hmessages, ?_⟩
  rw [hmessages, ← List.singleton_append]
  exact (Conversation.nil.input (m := c.message) rfl).append hkept.conversation

/-- A path of the example: two questions, a call that answers the second one, and its result. -/
def examplePath : List SessionEntry :=
  [⟨some "1", none, .message (.user (.text "a"))⟩,
    ⟨some "2", some "1", .message (.user (.text "b"))⟩,
    ⟨some "3", some "2", .message (.assistant ⟨[.toolCall ⟨"i", "t", .null, none⟩], "", "", "", {},
      .toolUse, none⟩)⟩,
    ⟨some "4", some "3", .message (.toolResult ⟨"i", "t", [.text { text := "r" }], none, false⟩)⟩]

/-- What is prepared for it: the first question is to be summarized. -/
def examplePreparation : CompactionPreparation :=
  ⟨"2", [.user (.text "a")], [], false, 1, none, ⟨[], [], []⟩, ⟨true, 0, 0, 4⟩⟩

/-- What comes of it. -/
def exampleCompaction : SessionEntry := ⟨some "5", some "4", .compaction ⟨"A", "2", 1, none, none⟩⟩

theorem examplePath_recorded : Recorded examplePath :=
  @Recorded.calls _ _ _ _ [⟨"i", "t", [.text { text := "r" }], none, false⟩]
    ((Recorded.nil.other rfl).other rfl) rfl rfl rfl

theorem compaction_conversation_example :
    ∃ old history turn kept, examplePreparation.Divides examplePath old history turn kept ∧
      toMessagesFromPath (examplePath ++ [] ++ [exampleCompaction]) =
        Compaction.message ⟨"A", "2", 1, none, none⟩ :: modelMessages (kept ++ []) ∧
      Conversation (toMessagesFromPath (examplePath ++ [] ++ [exampleCompaction])) :=
  compaction_conversation (by decide) examplePath_recorded
    (show prepareCompaction examplePath ⟨true, 0, 0, 4⟩ = some examplePreparation from rfl) .nil
    rfl rfl

end WorkWithMe.Pi
