import WorkWithMe.Lib.Serial
import WorkWithMe.Sessions.Store

/-!
# Operations on one session at the same time

Every operation on a session file is a check followed by an effect, with no lock around the two.
Here the steps of any number of operations on one session alternate: `update_session` (check,
write), `archive_session` and `unarchive_session` (check, rename), and the label step of
`handle_prompt` (check and read of `load_session`, check and write of `update_session`).  No file
operation fails, except that a rename or a read fails when the file has gone.

* `StoreOp.perform` is what an operation does when nothing comes between its steps;
  `exec_alone` says so.
* `Serializable` says that the files are as a serial order of the operations that succeeded leaves
  them, and `onePlace_of_serializable` that the session is then in one directory.
* `serializable_of_guarded` holds for the runs in which every write goes over the document that the
  operation has seen (`WritesOver`): it finds the file in `sessions_dir`, and the label step finds
  in it the document it has loaded.
* `exists_file_of_exec` holds for all runs: the file is always in at least one of the directories.
* `not_serializable_of_exec` is a run of one update and one archiving that ends with the session in
  both directories.
-/

set_option autoImplicit false

namespace WorkWithMe.Sessions

open JsonFile Server

/-! ## Operations and their steps -/

/-- An operation on the session, with the time or the label that the environment gives it. -/
inductive StoreOp where
  /-- `update_session`. -/
  | update (updated : String) (data : Json)
  /-- `archive_session`. -/
  | archive
  /-- `unarchive_session`. -/
  | unarchive
  /-- The label step of `handle_prompt`. -/
  | label (text updated : String)

/-- Where an operation is. -/
inductive Progress where
  /-- Before the check that the file is there. -/
  | check
  /-- The file was there; before the write or the rename. -/
  | effect
  /-- The file was there; before the read of the label step. -/
  | read
  /-- The label step has loaded this document; before the check of `update_session`. -/
  | recheck (v : Json)
  /-- The file was still there; before the write of the label step. -/
  | rewrite (v : Json)
  /-- The operation has ended, and was successful or not. -/
  | done (ok : Bool)

section Steps

variable (parse : SessionId → Bool) (id : SessionId)

/-- The files after a rename, if it was made. -/
def afterRename : Except String Bool × Store → Option Store
  | (.ok true, st) => some st
  | _ => none

/-- The files after a write, if it was made. -/
def afterWrite : Except String Unit × Store → Option Store
  | (.ok _, st) => some st
  | (.error _, _) => none

/-- The operation when nothing comes between its steps: the files it leaves, if it is successful. -/
def StoreOp.perform (st : Store) : StoreOp → Option Store
  | .update updated data => afterWrite (updateSession parse .none id updated data st)
  | .archive => afterRename (archiveSession parse .none id st)
  | .unarchive => afterRename (unarchiveSession parse .none id st)
  | .label text updated =>
    match loadSession parse .none id st with
    | .ok (some v) =>
      if alreadyLabelled v then some st
      else afterWrite (updateSession parse .none id updated (withLabel text v) st)
    | _ => none

/-- The check at the beginning of an operation. -/
def present (files : SessionId → Option Contents) : Bool := parse id && (files id).isSome

/-- A check, after which the operation goes on or ends. -/
def checkStep (st : Store) (files : SessionId → Option Contents) (next : Progress) :
    Store × Progress :=
  (st, if present parse id files then next else .done false)

/-- A rename, which fails when the file has gone. -/
def renameStep (st : Store) (file : Option Contents) (moved : Contents → Store) :
    Store × Progress :=
  match file with
  | some c => (moved c, .done true)
  | none => (st, .done false)

/-- One step of an operation. -/
def StoreOp.advance (st : Store) : StoreOp → Progress → Option (Store × Progress)
  | .update _ _, .check => some (checkStep parse id st st.active .effect)
  | .update updated data, .effect =>
    some (st.write id (data.insert "updated_at" (.str updated)), .done true)
  | .archive, .check => some (checkStep parse id st st.active .effect)
  | .archive, .effect => some (renameStep st (st.active id) (st.moveToArchive id))
  | .unarchive, .check => some (checkStep parse id st st.archived .effect)
  | .unarchive, .effect => some (renameStep st (st.archived id) (st.moveFromArchive id))
  | .label _ _, .check => some (checkStep parse id st st.active .read)
  | .label _ _, .read =>
    match st.active id with
    | some (.doc v) => some (st, if alreadyLabelled v then .done true else .recheck v)
    | _ => some (st, .done false)
  | .label _ _, .recheck v => some (checkStep parse id st st.active (.rewrite v))
  | .label text updated, .rewrite v =>
    some (st.write id ((withLabel text v).insert "updated_at" (.str updated)), .done true)
  | _, _ => none

/-- The files, and the operations that have begun. -/
structure Race where
  /-- The session files. -/
  store : Store
  /-- The operations, each with where it is. -/
  ops : ℕ → Option (StoreOp × Progress)

/-- A label of the interleaving: an operation begins, or goes on by one step. -/
inductive Move where
  /-- A new operation begins. -/
  | invoke (i : ℕ) (op : StoreOp)
  /-- An operation takes its next step. -/
  | advance (i : ℕ)

/-- One step of one operation. -/
def Race.step (r : Race) : Move → Option Race
  | .invoke i op =>
    match r.ops i with
    | some _ => none
    | none => some { r with ops := Function.update r.ops i (some (op, .check)) }
  | .advance i =>
    match r.ops i with
    | none => none
    | some (op, pc) => (op.advance parse id r.store pc).map fun x ↦
        ⟨x.1, Function.update r.ops i (some (op, x.2))⟩

/-- No operation has begun. -/
def Race.start (st : Store) : Race := ⟨st, fun _ ↦ none⟩

/-! ## The law -/

/-- The `i`-th operation, when nothing comes between its steps. -/
def Race.performNth (r : Race) (st : Store) (i : ℕ) : Option Store :=
  (r.ops i).bind fun x ↦ x.1.perform parse id st

/-- **The files are as some serial order of the successful operations leaves them.** -/
def Serializable (st₀ : Store) (r : Race) : Prop :=
  ∃ order : List ℕ, order.Nodup ∧ (∀ i, i ∈ order ↔ ∃ op, r.ops i = some (op, .done true)) ∧
    Machine.exec (r.performNth parse id) st₀ order = some r.store

/-- The session is in one of the two directories. -/
def OnePlace (st : Store) : Prop :=
  (∃ v, st.active id = some (.doc v) ∧ st.archived id = none) ∨
    ∃ v, st.archived id = some (.doc v) ∧ st.active id = none

/-- **The condition on a write**: it goes over the document that the operation has seen. -/
def WritesOver (st : Store) : StoreOp → Progress → Prop
  | .update _ _, .effect => st.active id ≠ none
  | .label _ _, .rewrite v => st.active id = some (.doc v)
  | _, _ => True

/-- The condition on a step. -/
def KeepsOrder (r : Race) : Move → Prop
  | .invoke _ _ => True
  | .advance i => ∀ op pc, r.ops i = some (op, pc) → WritesOver id r.store op pc

end Steps

/-! ## What an operation does when nothing comes between its steps -/

section Perform

variable {parse : SessionId → Bool} {id : SessionId} {st : Store}

theorem present_eq_true {files : SessionId → Option Contents} :
    present parse id files = true ↔ parse id = true ∧ files id ≠ none := by
  rw [present, Bool.and_eq_true, Option.isSome_iff_ne_none]

theorem perform_update (updated : String) (data : Json) :
    StoreOp.perform parse id st (.update updated data) =
      if present parse id st.active then
        some (st.write id (data.insert "updated_at" (.str updated)))
      else none := by
  rw [StoreOp.perform]
  obtain ⟨hparse, hsome, -, hok⟩ | ⟨hf, e, he⟩ := updateSession_cases parse .none id st updated data
  · rw [hok, if_pos (present_eq_true.mpr ⟨hparse, hsome⟩), afterWrite]
  · have habsent : ¬ present parse id st.active = true := fun h ↦
      hf ⟨(present_eq_true.mp h).1, (present_eq_true.mp h).2, rfl⟩
    rw [he, if_neg habsent, afterWrite]

theorem afterRename_renameSession (file : Option Contents) (moved : Contents → Store)
    (noDir failed : String) :
    afterRename (renameSession parse file moved noDir failed .none id st) =
      if parse id then file.map moved else none := by
  unfold renameSession
  cases parse id with
  | false => rfl
  | true => cases file <;> rfl

theorem perform_archive : StoreOp.perform parse id st .archive =
    if parse id then (st.active id).map (st.moveToArchive id) else none :=
  afterRename_renameSession ..

theorem perform_unarchive : StoreOp.perform parse id st .unarchive =
    if parse id then (st.archived id).map (st.moveFromArchive id) else none :=
  afterRename_renameSession ..

theorem perform_label {v : Json} (hparse : parse id = true) (hv : st.active id = some (.doc v))
    (text updated : String) :
    StoreOp.perform parse id st (.label text updated) =
      if alreadyLabelled v then some st
      else some (st.write id ((withLabel text v).insert "updated_at" (.str updated))) := by
  have hload : loadSession parse .none id st = .ok (some v) :=
    loadSession_eq_ok_iff.mpr ⟨hparse, rfl, hv⟩
  have hsome : st.active id ≠ none := by rw [hv]; exact Option.some_ne_none _
  obtain ⟨-, -, -, hok⟩ | ⟨hf, -⟩ := updateSession_cases parse .none id st updated
    (withLabel text v)
  · simp [StoreOp.perform, hload, hok, afterWrite]
  · exact absurd ⟨hparse, hsome, rfl⟩ hf

/-- The label step of the store is the one here, with no file operation failing. -/
theorem labelStep_eq_perform (text updated : String) :
    labelStep parse .none id text updated st =
      (StoreOp.perform parse id st (.label text updated)).getD st := by
  unfold labelStep StoreOp.perform
  cases loadSession parse .none id st with
  | error e => rfl
  | ok found =>
    cases found with
    | none => rfl
    | some v =>
      by_cases hl : alreadyLabelled v = true
      · simp [hl]
      · obtain ⟨-, -, -, hok⟩ | ⟨-, e, he⟩ := updateSession_cases parse .none id st updated
          (withLabel text v)
        · simp [hl, hok, afterWrite]
        · simp [hl, he, afterWrite]

/-- What an operation that is successful does to the files: nothing, or one write over a file that
is there, or one move. -/
theorem perform_cases {op : StoreOp} {st' : Store} (h : op.perform parse id st = some st') :
    st' = st ∨ (∃ v, st.active id ≠ none ∧ st' = st.write id v) ∨
      (∃ c, st.active id = some c ∧ st' = st.moveToArchive id c) ∨
      ∃ c, st.archived id = some c ∧ st' = st.moveFromArchive id c := by
  cases op with
  | update updated data =>
    rw [perform_update] at h
    split at h
    · rename_i hp
      exact Or.inr (Or.inl ⟨_, (present_eq_true.mp hp).2, (Option.some.inj h).symm⟩)
    · cases h
  | archive =>
    rw [perform_archive] at h
    split at h
    · obtain ⟨c, hc, rfl⟩ := Option.map_eq_some_iff.mp h
      exact Or.inr (Or.inr (Or.inl ⟨c, hc, rfl⟩))
    · cases h
  | unarchive =>
    rw [perform_unarchive] at h
    split at h
    · obtain ⟨c, hc, rfl⟩ := Option.map_eq_some_iff.mp h
      exact Or.inr (Or.inr (Or.inr ⟨c, hc, rfl⟩))
    · cases h
  | label text updated =>
    have hload : ∃ v, loadSession parse .none id st = .ok (some v) := by
      rw [StoreOp.perform] at h
      split at h
      · rename_i v hv
        exact ⟨v, hv⟩
      · cases h
    obtain ⟨v, hload⟩ := hload
    obtain ⟨hparse, -, hv⟩ := loadSession_eq_ok_iff.mp hload
    rw [perform_label hparse hv] at h
    split at h
    · exact Or.inl (Option.some.inj h).symm
    · exact Or.inr (Or.inl ⟨_, by rw [hv]; exact Option.some_ne_none _, (Option.some.inj h).symm⟩)

/-- **An operation leaves the session in one place.** -/
theorem onePlace_perform {op : StoreOp} {st' : Store} (h : op.perform parse id st = some st')
    (hone : OnePlace id st) : OnePlace id st' := by
  obtain rfl | ⟨v, hsome, rfl⟩ | ⟨c, hc, rfl⟩ | ⟨c, hc, rfl⟩ := perform_cases h
  · exact hone
  · obtain ⟨w, -, ha⟩ | ⟨w, -, hnone⟩ := hone
    · exact Or.inl ⟨v, Store.active_write_self .., ha⟩
    · exact absurd hnone hsome
  · obtain ⟨w, hw, -⟩ | ⟨w, -, hnone⟩ := hone
    · obtain rfl := Option.some.inj (hc.symm.trans hw)
      exact Or.inr ⟨w, Store.archived_moveToArchive_self .., Store.active_moveToArchive_self ..⟩
    · rw [hnone] at hc
      cases hc
  · obtain ⟨w, -, hnone⟩ | ⟨w, hw, -⟩ := hone
    · rw [hnone] at hc
      cases hc
    · obtain rfl := Option.some.inj (hc.symm.trans hw)
      exact Or.inl ⟨w, Store.active_moveFromArchive_self .., Store.archived_moveFromArchive_self ..⟩

/-- After a serial order of operations the session is in one place. -/
theorem onePlace_of_serializable {st₀ : Store} {r : Race} (h₀ : OnePlace id st₀)
    (h : Serializable parse id st₀ r) : OnePlace id r.store := by
  obtain ⟨order, -, -, hexec⟩ := h
  refine Machine.inv_of_exec (fun st i st' hone hi ↦ ?_) h₀ hexec
  obtain ⟨x, -, hx⟩ := Option.bind_eq_some_iff.mp hi
  exact onePlace_perform hx hone

end Perform

/-! ## One step -/

section Step

variable {parse : SessionId → Bool} {id : SessionId}

/-- What the operation knows at a point of its way: the id is valid, and the document that the label
step is about to write has no label. -/
def Progress.Checked (parse : SessionId → Bool) (id : SessionId) : Progress → Prop
  | .effect => parse id = true
  | .read => parse id = true
  | .recheck v => parse id = true ∧ alreadyLabelled v = false
  | .rewrite v => parse id = true ∧ alreadyLabelled v = false
  | .check => True
  | .done _ => True

/-- What a step can do to the files and to its operation: nothing to the files, and it does not end
the operation with success; or it ends the operation with success and does in one go what the
operation does. -/
def StepSpec (parse : SessionId → Bool) (id : SessionId) (st : Store) (op : StoreOp)
    (out : Store × Progress) : Prop :=
  out.2.Checked parse id ∧ ((out.1 = st ∧ out.2 ≠ .done true) ∨
    (out.2 = .done true ∧ op.perform parse id st = some out.1))

variable {st : Store} {op : StoreOp}

/-- A check leaves the files alone, and what comes after it knows its outcome. -/
theorem stepSpec_checkStep {files : SessionId → Option Contents} {next : Progress}
    (hnext : next ≠ .done true) (h : parse id = true → next.Checked parse id) :
    StepSpec parse id st op (checkStep parse id st files next) := by
  rw [checkStep]
  by_cases hp : present parse id files = true
  · rw [if_pos hp]
    exact ⟨h (present_eq_true.mp hp).1, Or.inl ⟨rfl, hnext⟩⟩
  · rw [if_neg hp]
    exact ⟨trivial, Or.inl ⟨rfl, by simp⟩⟩

/-- A rename is made if the file is still there. -/
theorem stepSpec_renameStep {file : Option Contents} {moved : Contents → Store}
    (h : ∀ c, file = some c → op.perform parse id st = some (moved c)) :
    StepSpec parse id st op (renameStep st file moved) := by
  cases file with
  | some c => exact ⟨trivial, Or.inr ⟨rfl, h c rfl⟩⟩
  | none => exact ⟨trivial, Or.inl ⟨rfl, by simp [renameStep]⟩⟩

/-- **What a step of an operation can do**, where a write goes over the document that the operation
has seen. -/
theorem advance_cases {pc : Progress} {out : Store × Progress} (hc : pc.Checked parse id)
    (hw : WritesOver id st op pc) (h : op.advance parse id st pc = some out) :
    StepSpec parse id st op out := by
  cases op with
  | update updated data =>
    cases pc with
    | check =>
      obtain rfl := Option.some.inj h
      exact stepSpec_checkStep (by simp) fun hp ↦ hp
    | effect =>
      obtain rfl := Option.some.inj h
      refine ⟨trivial, Or.inr ⟨rfl, ?_⟩⟩
      rw [perform_update, if_pos (present_eq_true.mpr ⟨hc, hw⟩)]
    | _ => simp [StoreOp.advance] at h
  | archive =>
    cases pc with
    | check =>
      obtain rfl := Option.some.inj h
      exact stepSpec_checkStep (by simp) fun hp ↦ hp
    | effect =>
      obtain rfl := Option.some.inj h
      have hparse : parse id = true := hc
      refine stepSpec_renameStep fun c hfile ↦ ?_
      rw [perform_archive, if_pos hparse, hfile, Option.map_some]
    | _ => simp [StoreOp.advance] at h
  | unarchive =>
    cases pc with
    | check =>
      obtain rfl := Option.some.inj h
      exact stepSpec_checkStep (by simp) fun hp ↦ hp
    | effect =>
      obtain rfl := Option.some.inj h
      have hparse : parse id = true := hc
      refine stepSpec_renameStep fun c hfile ↦ ?_
      rw [perform_unarchive, if_pos hparse, hfile, Option.map_some]
    | _ => simp [StoreOp.advance] at h
  | label text updated =>
    cases pc with
    | check =>
      obtain rfl := Option.some.inj h
      exact stepSpec_checkStep (by simp) fun hp ↦ hp
    | read =>
      rw [StoreOp.advance] at h
      split at h
      · rename_i v hv
        obtain rfl := Option.some.inj h
        by_cases hl : alreadyLabelled v = true
        · rw [if_pos hl]
          refine ⟨trivial, Or.inr ⟨rfl, ?_⟩⟩
          rw [perform_label hc hv, if_pos hl]
        · rw [if_neg hl]
          exact ⟨⟨hc, by simpa using hl⟩, Or.inl ⟨rfl, by simp⟩⟩
      · obtain rfl := Option.some.inj h
        exact ⟨trivial, Or.inl ⟨rfl, by simp⟩⟩
    | recheck v =>
      obtain rfl := Option.some.inj h
      exact stepSpec_checkStep (by simp) fun _ ↦ hc
    | rewrite v =>
      obtain rfl := Option.some.inj h
      refine ⟨trivial, Or.inr ⟨rfl, ?_⟩⟩
      rw [perform_label hc.1 hw, if_neg (by simp [hc.2])]
    | _ => simp [StoreOp.advance] at h

/-- What the operations of a race know. -/
def Race.Checked (parse : SessionId → Bool) (id : SessionId) (r : Race) : Prop :=
  ∀ i op pc, r.ops i = some (op, pc) → pc.Checked parse id

/-- The law is that of parties that have come to their end once they have succeeded. -/
theorem serializable_iff_explained {st₀ : Store} {r : Race} :
    Serializable parse id st₀ r ↔ Serial.Explained (fun x : StoreOp × Progress ↦ x.2 = .done true)
      (fun x st ↦ x.1.perform parse id st) st₀ r.store r.ops := by
  have hmem : ∀ i, (∃ op, r.ops i = some (op, .done true)) ↔
      ∃ x, r.ops i = some x ∧ x.2 = .done true := by
    intro i
    constructor
    · rintro ⟨op, hop⟩
      exact ⟨_, hop, rfl⟩
    · rintro ⟨⟨op, pc⟩, hop, rfl⟩
      exact ⟨op, hop⟩
  simp only [Serializable, hmem]
  rfl

/-- An operation moves on, with its place other than success. -/
theorem Serializable.of_quiet {st₀ : Store} {r : Race} {i : ℕ} {op : StoreOp} {pc : Progress}
    (h : Serializable parse id st₀ r) (hi : ∀ op', r.ops i ≠ some (op', .done true))
    (hpc : pc ≠ .done true) :
    Serializable parse id st₀ ⟨r.store, Function.update r.ops i (some (op, pc))⟩ := by
  refine serializable_iff_explained.mpr ((serializable_iff_explained.mp h).quiet ?_ hpc)
  rintro ⟨op', pc'⟩ hop rfl
  exact hi op' hop

/-- An operation ends with success: it comes last in the order. -/
theorem Serializable.of_commit {st₀ st' : Store} {r : Race} {i : ℕ} {op : StoreOp}
    (h : Serializable parse id st₀ r) (hi : ∀ op', r.ops i ≠ some (op', .done true))
    (hop : op.perform parse id r.store = some st') :
    Serializable parse id st₀ ⟨st', Function.update r.ops i (some (op, .done true))⟩ := by
  refine serializable_iff_explained.mpr ((serializable_iff_explained.mp h).commit ?_ rfl hop)
  rintro ⟨op', pc'⟩ hop' rfl
  exact hi op' hop'

/-- **A step keeps the files as a serial order of the successful operations leaves them.** -/
theorem serializable_step {st₀ : Store} {r r' : Race} {a : Move}
    (h : Serializable parse id st₀ r ∧ r.Checked parse id) (hG : KeepsOrder id r a)
    (hs : r.step parse id a = some r') :
    Serializable parse id st₀ r' ∧ r'.Checked parse id := by
  -- what the operations know is what they knew, but for the one that moves
  have hchecked : ∀ {st : Store} {i : ℕ} {op : StoreOp} {pc : Progress},
      pc.Checked parse id →
      (Race.mk st (Function.update r.ops i (some (op, pc)))).Checked parse id := by
    intro st i op pc hpc j op' pc' hj
    by_cases hji : j = i
    · subst hji
      simp only [Function.update_self] at hj
      obtain ⟨-, rfl⟩ := Prod.mk.inj (Option.some.inj hj)
      exact hpc
    · simp only [Function.update_of_ne hji] at hj
      exact h.2 j op' pc' hj
  cases a with
  | invoke i op =>
    rw [Race.step] at hs
    split at hs
    · cases hs
    · rename_i hi
      obtain rfl := Option.some.inj hs
      exact ⟨h.1.of_quiet (fun op' hop' ↦ by rw [hi] at hop'; cases hop') (by simp),
        hchecked trivial⟩
  | advance i =>
    rw [Race.step] at hs
    split at hs
    · cases hs
    · rename_i op pc hi
      obtain ⟨⟨st', pc'⟩, hadv, rfl⟩ := Option.map_eq_some_iff.mp hs
      have hrunning : ∀ op', r.ops i ≠ some (op', .done true) := by
        intro op' hop'
        obtain ⟨rfl, rfl⟩ := Prod.mk.inj (Option.some.inj (hi.symm.trans hop'))
        cases op <;> cases hadv
      obtain ⟨hc', ⟨rfl, hpc'⟩ | ⟨rfl, hop⟩⟩ :=
        advance_cases (h.2 i op pc hi) (hG op pc hi) hadv
      · exact ⟨h.1.of_quiet hrunning hpc', hchecked hc'⟩
      · exact ⟨h.1.of_commit hrunning hop, hchecked hc'⟩

end Step

/-! ## An operation that nothing comes between -/

section Alone

variable {parse : SessionId → Bool} {id : SessionId} {st st' : Store}
  {ops : ℕ → Option (StoreOp × Progress)} {i : ℕ} {op : StoreOp} {pc pc' : Progress} {final : Race}

/-- The operation takes a step, and then the others. -/
theorem exec_advance (h : op.advance parse id st pc = some (st', pc'))
    (hrest : ∃ n, Machine.exec (Race.step parse id) ⟨st', Function.update ops i (some (op, pc'))⟩
      (List.replicate n (.advance i)) = some final) :
    ∃ n, Machine.exec (Race.step parse id) ⟨st, Function.update ops i (some (op, pc))⟩
      (List.replicate n (.advance i)) = some final := by
  obtain ⟨n, hn⟩ := hrest
  refine ⟨n + 1, Machine.exec_cons_eq_some.mpr ⟨_, ?_, hn⟩⟩
  simp [Race.step, h]

/-- A check and a rename that nothing comes between. -/
theorem exec_rename {files : SessionId → Option Contents} {moved : Contents → Store}
    (hcheck : op.advance parse id st .check = some (checkStep parse id st files .effect))
    (heffect : op.advance parse id st .effect = some (renameStep st (files id) moved)) :
    ∃ n, Machine.exec (Race.step parse id) ⟨st, Function.update ops i (some (op, .check))⟩
        (List.replicate n (.advance i)) =
      some ⟨(if parse id then (files id).map moved else none).getD st, Function.update ops i
        (some (op, .done (if parse id then (files id).map moved else none).isSome))⟩ := by
  refine exec_advance hcheck ?_
  by_cases hp : present parse id files = true
  · obtain ⟨hparse, hsome⟩ := present_eq_true.mp hp
    obtain ⟨c, hc⟩ := Option.ne_none_iff_exists'.mp hsome
    rw [if_pos hp, if_pos hparse, hc]
    refine exec_advance ?_ ⟨0, rfl⟩
    rw [heffect, hc]
    rfl
  · have hnone : (if parse id then (files id).map moved else none) = none := by
      simpa [present_eq_true] using hp
    rw [if_neg hp, hnone]
    exact ⟨0, rfl⟩

/-- **An operation that nothing comes between does what the function of `sessions.rs` does.** -/
theorem exec_alone (r : Race) (hi : r.ops i = none) (op : StoreOp) :
    ∃ n, Machine.exec (Race.step parse id) r (.invoke i op :: List.replicate n (.advance i)) =
      some ⟨(op.perform parse id r.store).getD r.store, Function.update r.ops i
        (some (op, .done (op.perform parse id r.store).isSome))⟩ := by
  suffices h : ∃ n, Machine.exec (Race.step parse id)
      ⟨r.store, Function.update r.ops i (some (op, .check))⟩ (List.replicate n (.advance i)) =
        some ⟨(op.perform parse id r.store).getD r.store, Function.update r.ops i
          (some (op, .done (op.perform parse id r.store).isSome))⟩ by
    obtain ⟨n, hn⟩ := h
    exact ⟨n, Machine.exec_cons_eq_some.mpr ⟨_, by simp [Race.step, hi], hn⟩⟩
  cases op with
  | update updated data =>
    refine exec_advance rfl ?_
    rw [perform_update]
    split
    · exact exec_advance rfl ⟨0, rfl⟩
    · exact ⟨0, rfl⟩
  | archive =>
    rw [perform_archive]
    exact exec_rename (by rw [StoreOp.advance]) (by rw [StoreOp.advance])
  | unarchive =>
    rw [perform_unarchive]
    exact exec_rename (by rw [StoreOp.advance]) (by rw [StoreOp.advance])
  | label text updated =>
    refine exec_advance rfl ?_
    by_cases hload : ∃ v, loadSession parse .none id r.store = .ok (some v)
    · obtain ⟨v, hload⟩ := hload
      obtain ⟨hparse, -, hv⟩ := loadSession_eq_ok_iff.mp hload
      have hpresent : present parse id r.store.active = true :=
        present_eq_true.mpr ⟨hparse, by simp [hv]⟩
      rw [if_pos hpresent]
      refine exec_advance (by rw [StoreOp.advance, hv]) ?_
      rw [perform_label hparse hv]
      split
      · exact ⟨0, rfl⟩
      · refine exec_advance rfl ?_
        rw [if_pos hpresent]
        exact exec_advance rfl ⟨0, rfl⟩
    · have hnone : StoreOp.perform parse id r.store (.label text updated) = none := by
        rw [StoreOp.perform]
        split
        · rename_i v hv
          exact absurd ⟨v, hv⟩ hload
        · rfl
      rw [hnone]
      split
      · rename_i hp
        obtain ⟨hparse, hsome⟩ := present_eq_true.mp hp
        -- the file is there, and is not JSON
        have hread : StoreOp.advance parse id r.store (.label text updated) .read =
            some (r.store, .done false) := by
          rw [StoreOp.advance]
          split
          · rename_i v hv
            exact absurd ⟨v, loadSession_eq_ok_iff.mpr ⟨hparse, rfl, hv⟩⟩ hload
          · rfl
        exact exec_advance hread ⟨0, rfl⟩
      · exact ⟨0, rfl⟩

end Alone

/-! ## The law over runs -/

section Law

variable {parse : SessionId → Bool} {id : SessionId}

/-- Where a step leaves the file. -/
theorem advance_store {st st' : Store} {op : StoreOp} {pc pc' : Progress}
    (h : op.advance parse id st pc = some (st', pc')) :
    st' = st ∨ (∃ v, st' = st.write id v) ∨ (∃ c, st' = st.moveToArchive id c) ∨
      ∃ c, st' = st.moveFromArchive id c := by
  have hrename : ∀ (file : Option Contents) (moved : Contents → Store),
      (renameStep st file moved).1 = st ∨ ∃ c, (renameStep st file moved).1 = moved c := by
    rintro (_ | c) moved
    · exact Or.inl rfl
    · exact Or.inr ⟨c, rfl⟩
  cases op <;> cases pc <;> simp only [StoreOp.advance, reduceCtorEq] at h
  case archive.effect =>
    obtain rfl := congrArg Prod.fst (Option.some.inj h)
    obtain hst | ⟨c, hc⟩ := hrename (st.active id) (st.moveToArchive id)
    · exact Or.inl hst
    · exact Or.inr (Or.inr (Or.inl ⟨c, hc⟩))
  case unarchive.effect =>
    obtain rfl := congrArg Prod.fst (Option.some.inj h)
    obtain hst | ⟨c, hc⟩ := hrename (st.archived id) (st.moveFromArchive id)
    · exact Or.inl hst
    · exact Or.inr (Or.inr (Or.inr ⟨c, hc⟩))
  case label.read =>
    split at h <;> exact Or.inl (congrArg Prod.fst (Option.some.inj h)).symm
  case update.effect | label.rewrite =>
    exact Or.inr (Or.inl ⟨_, (congrArg Prod.fst (Option.some.inj h)).symm⟩)
  all_goals exact Or.inl (congrArg Prod.fst (Option.some.inj h)).symm

/-- **The file of a session is never lost**, whatever comes between the steps. -/
theorem exists_file_of_exec (st₀ : Store) (h₀ : st₀.active id ≠ none ∨ st₀.archived id ≠ none)
    (as : List Move) (r : Race)
    (hrun : Machine.exec (Race.step parse id) (.start st₀) as = some r) :
    r.store.active id ≠ none ∨ r.store.archived id ≠ none := by
  refine Machine.inv_of_exec (I := fun r ↦ r.store.active id ≠ none ∨ r.store.archived id ≠ none)
    (fun r a r' h hs ↦ ?_) h₀ hrun
  cases a with
  | invoke i op =>
    rw [Race.step] at hs
    split at hs
    · cases hs
    · obtain rfl := Option.some.inj hs
      exact h
  | advance i =>
    rw [Race.step] at hs
    split at hs
    · cases hs
    · obtain ⟨⟨st', pc'⟩, hadv, rfl⟩ := Option.map_eq_some_iff.mp hs
      obtain rfl | ⟨v, rfl⟩ | ⟨c, rfl⟩ | ⟨c, rfl⟩ := advance_store hadv
      · exact h
      · exact Or.inl (by simp)
      · exact Or.inr (by simp)
      · exact Or.inl (by simp)

/-- **One place, and no update lost.**  In a run in which every write goes over the document that
its operation has seen, the files are at every point as some serial order of the operations that
have succeeded leaves them, and the session is in one of the two directories. -/
theorem serializable_of_guarded (st₀ : Store) (v₀ : Json)
    (hactive : st₀.active id = some (.doc v₀)) (harchived : st₀.archived id = none)
    (as : List Move) (r : Race)
    (hrun : Machine.exec (Race.step parse id) (.start st₀) as = some r)
    (hG : Machine.Guarded (Race.step parse id) (KeepsOrder id) (.start st₀) as) :
    Serializable parse id st₀ r ∧ OnePlace id r.store := by
  have hstart : Serializable parse id st₀ (.start st₀) ∧ (Race.start st₀).Checked parse id :=
    ⟨⟨[], List.nodup_nil, fun i ↦ by simp [Race.start], rfl⟩, fun _ _ _ h ↦ by cases h⟩
  obtain ⟨hserial, -⟩ : Serializable parse id st₀ r ∧ r.Checked parse id :=
    Machine.inv_of_guarded (fun _ _ _ h hg hs ↦ serializable_step h hg hs) hstart hG hrun
  exact ⟨hserial, onePlace_of_serializable (Or.inl ⟨v₀, hactive, harchived⟩) hserial⟩

/-- A store with one session. -/
def exampleStore : Store := Store.empty.write "s" (.obj [])

/-- An update and an archiving, the checks of which come before the effects. -/
def exampleRace : List Move :=
  [.invoke 0 (.update "now" (.obj [])), .invoke 1 .archive, .advance 0, .advance 1, .advance 0,
    .advance 1]

theorem serializable_of_guarded_example :
    ∃ r, Machine.exec (Race.step (fun _ ↦ true) "s") (.start exampleStore) exampleRace = some r ∧
      Serializable (fun _ ↦ true) "s" exampleStore r ∧ OnePlace "s" r.store := by
  obtain ⟨r, hrun⟩ : ∃ r, Machine.exec (Race.step (fun _ ↦ true) "s") (.start exampleStore)
      exampleRace = some r := ⟨_, rfl⟩
  refine ⟨r, hrun, serializable_of_guarded exampleStore (.obj []) rfl rfl exampleRace r hrun ?_⟩
  -- both checks, the write, which finds the file, and the rename
  have hcheck : ∀ {st : Store} {op : StoreOp}, WritesOver "s" st op .check := by
    rintro st (_ | _ | _ | _) <;> trivial
  refine .cons rfl trivial <| .cons rfl trivial <| .cons rfl ?_ <| .cons rfl ?_ <| .cons rfl ?_ <|
    .cons rfl ?_ trivial
  · rintro op pc ⟨⟩
    exact hcheck
  · rintro op pc ⟨⟩
    exact hcheck
  · rintro op pc ⟨⟩
    exact Option.some_ne_none _
  · rintro op pc ⟨⟩
    trivial

/-- **The law fails without the condition.**  A session that is archived between the check and the
write of an update is in both directories. -/
theorem not_serializable_of_exec :
    ¬ ∀ (st₀ : Store) (v₀ : Json) (as : List Move) (r : Race),
      st₀.active "s" = some (.doc v₀) → st₀.archived "s" = none →
        Machine.exec (Race.step (fun _ ↦ true) "s") (.start st₀) as = some r →
          Serializable (fun _ ↦ true) "s" st₀ r ∧ OnePlace "s" r.store := by
  intro hall
  obtain ⟨r, hrun, hactive, harchived⟩ : ∃ r,
      Machine.exec (Race.step (fun _ ↦ true) "s") (.start exampleStore)
        [.invoke 0 (.update "now" (.obj [])), .invoke 1 .archive, .advance 0, .advance 1,
          .advance 1, .advance 0] = some r ∧
        (r.store.active "s").isSome = true ∧ (r.store.archived "s").isSome = true :=
    ⟨_, rfl, rfl, rfl⟩
  obtain ⟨v, -, hnone⟩ | ⟨v, -, hnone⟩ := (hall exampleStore (.obj []) _ r rfl rfl hrun).2
  · simp [hnone] at harchived
  · simp [hnone] at hactive

end Law

end WorkWithMe.Sessions
