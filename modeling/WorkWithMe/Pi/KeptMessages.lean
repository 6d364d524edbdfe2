import WorkWithMe.Pi.SessionLaws

/-!
# What a compaction leaves

The last compaction on a path says where the part of it begins that is kept, and what a provider gets
is a summary and the messages of that part.

* `toMessagesFromPath_eq` says so of every path, and `keptPart` is the part that is kept.
* `keptPart_append` says that it grows with the path, and `keptPart_compaction` what a new compaction
  makes of it.
-/

set_option autoImplicit false

namespace WorkWithMe.Pi

variable {path pre post l : List SessionEntry} {e : SessionEntry} {c : Compaction}

/-! ## The last compaction -/

theorem lastCompaction_concat (path : List SessionEntry) (e : SessionEntry) :
    lastCompaction (path ++ [e]) =
      (e.compaction?.map fun c ↦ (path.length, c)).or (lastCompaction path) := by
  rw [lastCompaction, List.zipIdx_append, List.reverse_append, List.findSome?_append]
  simp [lastCompaction]

/-- No entry is a compaction. -/
def Uncompacted (l : List SessionEntry) : Prop := ∀ e ∈ l, e.compaction? = none

theorem lastCompaction_append (h : Uncompacted l) :
    lastCompaction (path ++ l) = lastCompaction path := by
  induction l using List.reverseRecOn with
  | nil => rw [List.append_nil]
  | append_singleton l e ih =>
    rw [← List.append_assoc, lastCompaction_concat, h e (by simp), Option.map_none, Option.none_or]
    exact ih fun b hb ↦ h b (List.mem_append_left _ hb)

theorem lastCompaction_append_cons (hc : e.compaction? = some c) (h : Uncompacted post) :
    lastCompaction (pre ++ e :: post) = some (pre.length, c) := by
  rw [List.append_cons, lastCompaction_append h, lastCompaction_concat, hc]
  rfl

/-- **Where the last compaction is.** -/
theorem lastCompaction_cases (path : List SessionEntry) :
    (lastCompaction path = none ∧ Uncompacted path) ∨
      ∃ pre e post c, path = pre ++ e :: post ∧ e.compaction? = some c ∧ Uncompacted post ∧
        lastCompaction path = some (pre.length, c) := by
  induction path using List.reverseRecOn with
  | nil => exact .inl ⟨rfl, by simp [Uncompacted]⟩
  | append_singleton path b ih =>
    cases hb : b.compaction? with
    | some c =>
      refine .inr ⟨path, b, [], c, rfl, hb, by simp [Uncompacted], ?_⟩
      exact lastCompaction_append_cons hb (by simp [Uncompacted])
    | none =>
      have hone : Uncompacted [b] := by simpa [Uncompacted] using hb
      rcases ih with ⟨hlast, h⟩ | ⟨pre, e, post, c, rfl, hc, h, hlast⟩
      · exact .inl ⟨(lastCompaction_append hone).trans hlast,
          List.forall_mem_append.mpr ⟨h, hone⟩⟩
      · refine .inr ⟨pre, e, post ++ [b], c, by simp, hc, List.forall_mem_append.mpr ⟨h, hone⟩, ?_⟩
        exact (lastCompaction_append hone).trans hlast

/-! ## What is kept -/

/-- The entry is the one of which the compaction says that it is the first to be kept. -/
def Compaction.isFirstKept (c : Compaction) (e : SessionEntry) : Bool :=
  decide (e.id = some c.firstKeptEntryId)

/-- **What is kept of a path**: what comes from the entry that the last compaction names on, or from
that compaction on if there is no such entry. -/
def keptPart (path : List SessionEntry) : List SessionEntry :=
  match lastCompaction path with
  | none => path
  | some (idx, c) =>
    if path.any c.isFirstKept then path.dropWhile fun e ↦ !c.isFirstKept e else path.drop idx

/-- The message that stands for what was summarized. -/
def Compaction.message (c : Compaction) : Message :=
  .user (.blocks
    [.text { text := compactionSummaryPrefix ++ c.summary ++ compactionSummarySuffix }])

/-- The messages of entries. -/
def modelMessages (entries : List SessionEntry) : List Message :=
  entries.filterMap SessionEntry.modelMessage

theorem modelMessages_append (l l' : List SessionEntry) :
    modelMessages (l ++ l') = modelMessages l ++ modelMessages l' := List.filterMap_append

theorem modelMessages_cons (e : SessionEntry) (l : List SessionEntry) :
    modelMessages (e :: l) = e.modelMessage.toList ++ modelMessages l := by
  rw [modelMessages, List.filterMap_cons]
  cases e.modelMessage <;> rfl

theorem keepMessages_true (idx : ℕ) (id : String) (b : Bool) (path : List SessionEntry) (i : ℕ) :
    keepMessages idx id b true path i = modelMessages path := by
  induction path generalizing i with
  | nil => rfl
  | cons e path ih => rw [keepMessages, ih, modelMessages_cons]

theorem keepMessages_first (idx : ℕ) (c : Compaction) (path : List SessionEntry) (i : ℕ) :
    keepMessages idx c.firstKeptEntryId true false path i =
      modelMessages (path.dropWhile fun e ↦ !c.isFirstKept e) := by
  induction path generalizing i with
  | nil => rfl
  | cons e path ih =>
    rw [keepMessages, List.dropWhile_cons]
    by_cases h : e.id = some c.firstKeptEntryId
    · simp [h, Compaction.isFirstKept, keepMessages_true, modelMessages_cons]
    · simp [h, Compaction.isFirstKept, ih]

theorem keepMessages_compaction (idx : ℕ) (id : String) (path : List SessionEntry) (i : ℕ) :
    keepMessages idx id false false path i = modelMessages (path.drop (idx - i)) := by
  induction path generalizing i with
  | nil => simp [keepMessages, modelMessages]
  | cons e path ih =>
    rw [keepMessages]
    by_cases h : idx ≤ i
    · simp [h, keepMessages_true, modelMessages_cons]
    · obtain ⟨k, hk⟩ : ∃ k, idx - i = k + 1 := ⟨idx - i - 1, by omega⟩
      have hk' : idx - (i + 1) = k := by omega
      simp [h, ih, hk, hk']

/-- **What a provider gets of a path**: a summary, if there is one, and the messages of what is
kept. -/
theorem toMessagesFromPath_eq (path : List SessionEntry) :
    toMessagesFromPath path =
      ((lastCompaction path).map fun p ↦ p.2.message).toList ++ modelMessages (keptPart path) := by
  rw [toMessagesFromPath, keptPart]
  cases lastCompaction path with
  | none => rfl
  | some p =>
    obtain ⟨idx, c⟩ := p
    have hany : (path.any fun e ↦ decide (e.id = some c.firstKeptEntryId)) =
        path.any c.isFirstKept := rfl
    simp only [hany]
    split
    · rename_i h
      rw [h, keepMessages_first]
      rfl
    · rename_i h
      rw [Bool.not_eq_true] at h
      rw [h, keepMessages_compaction, Nat.sub_zero]
      rfl

/-- What is kept is the end of the path. -/
theorem keptPart_suffix (path : List SessionEntry) : keptPart path <:+ path := by
  rw [keptPart]
  split
  · exact List.suffix_rfl
  · split
    · exact List.dropWhile_suffix _
    · exact List.drop_suffix ..

/-- What the last compaction names is on the path. -/
def Resolved (path : List SessionEntry) : Prop :=
  ∀ p, lastCompaction path = some p → path.any p.2.isFirstKept = true

theorem resolved_of_uncompacted (h : Uncompacted path) : Resolved path := by
  rcases lastCompaction_cases path with ⟨hlast, -⟩ | ⟨pre, e, post, c, rfl, hc, -⟩
  · intro p hp
    rw [hlast] at hp
    cases hp
  · rw [h e (by simp)] at hc
    cases hc

theorem Resolved.append (h : Resolved path) (hl : Uncompacted l) : Resolved (path ++ l) := by
  intro p hp
  rw [lastCompaction_append hl] at hp
  rw [List.any_append, h p hp, Bool.true_or]

theorem dropWhile_append_of_any {α : Type} {p : α → Bool} {l : List α} (h : l.any p = true)
    (l' : List α) : (l ++ l').dropWhile (fun a ↦ !p a) = l.dropWhile (fun a ↦ !p a) ++ l' := by
  induction l with
  | nil => cases h
  | cons a l ih =>
    rw [List.cons_append, List.dropWhile_cons, List.dropWhile_cons]
    cases ha : p a with
    | true => simp
    | false => simpa [ha] using ih (by simpa [ha] using h)

/-- **What is kept grows with the path.** -/
theorem keptPart_append (h : Resolved path) (hl : Uncompacted l) :
    keptPart (path ++ l) = keptPart path ++ l := by
  rw [keptPart, keptPart, lastCompaction_append hl]
  cases hlast : lastCompaction path with
  | none => rfl
  | some p =>
    have hany := h p hlast
    simp only [List.any_append, hany, Bool.true_or, if_true]
    exact dropWhile_append_of_any hany l

theorem toMessagesFromPath_append (h : Resolved path) (hl : Uncompacted l) :
    toMessagesFromPath (path ++ l) = toMessagesFromPath path ++ modelMessages l := by
  rw [toMessagesFromPath_eq, toMessagesFromPath_eq, keptPart_append h hl, modelMessages_append,
    lastCompaction_append hl, List.append_assoc]

/-- **A new compaction** keeps what comes from the entry that it names on. -/
theorem keptPart_compaction {b : SessionEntry} (hc : e.compaction? = some c)
    (hb : b.id = some c.firstKeptEntryId) (hpre : ∀ a ∈ pre, a.id ≠ b.id) :
    keptPart (pre ++ b :: post ++ [e]) = b :: post ++ [e] := by
  have hfirst : c.isFirstKept b = true := decide_eq_true hb
  rw [keptPart, lastCompaction_append_cons hc (by simp [Uncompacted])]
  simp only [List.any_append, List.any_cons, hfirst, Bool.true_or, Bool.or_true, if_true]
  rw [List.append_assoc, List.dropWhile_append_of_pos, List.cons_append, List.dropWhile_cons]
  · simp [hfirst]
  · intro a ha
    simpa [Compaction.isFirstKept, hb] using hpre a ha

end WorkWithMe.Pi
