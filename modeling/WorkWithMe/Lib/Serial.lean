import Mathlib.Logic.Function.Basic
import WorkWithMe.Lib.Machine

/-!
# Calls that share a cell without a lock

A cell holds a value, and any number of calls read it and write it, one access at a time, so that
the accesses of one call come between those of another.  A call is a program `Prog`, what it does
when nothing comes between is `Prog.run`, and `Pool` is the cell with the calls that have begun.

* `Explained` is the law in the abstract: the value is the one that some order of those who have
  come to their end leaves.  `Explained.quiet` and `Explained.commit` are the two ways in which a
  step keeps it: nothing changes and nobody ends, or somebody ends and the change is what he does.
* A `Service` comes with the proof that its programs are `Prog.Sound`: where what a call has seen
  is still `fresh`, its last write does in one go what the call does.  `Service.Keeps` is then the
  condition on a step.
* `Service.serializable_of_keeps` is the result: in the runs in which every step meets the
  condition, the cell holds what a serial order of the calls with a good result leaves.
* `Service.exec_alone` says that a call that nothing comes between does what its program does.
-/

set_option autoImplicit false

universe u v w x y

namespace Serial

/-! ## Orders that explain a value -/

section Explained

variable {X : Type u} {D : Type v} {ended : X → Prop} {act : X → D → Option D}

/-- The value is the one that some order of the parties that have come to their end leaves. -/
def Explained (ended : X → Prop) (act : X → D → Option D) (d₀ d : D) (parties : ℕ → Option X) :
    Prop :=
  ∃ order : List ℕ, order.Nodup ∧ (∀ i, i ∈ order ↔ ∃ x, parties i = some x ∧ ended x) ∧
    Machine.exec (fun d i ↦ (parties i).bind fun x ↦ act x d) d₀ order = some d

variable {d₀ d d' : D} {parties : ℕ → Option X} {i : ℕ} {x : X}

theorem explained_start : Explained ended act d₀ d₀ fun _ ↦ none :=
  ⟨[], List.nodup_nil, by simp, rfl⟩

/-- An order does not see a party that is not in it. -/
theorem exec_update {order : List ℕ} (hi : i ∉ order) :
    Machine.exec (fun d j ↦ (Function.update parties i (some x) j).bind fun x ↦ act x d) d₀ order =
      Machine.exec (fun d j ↦ (parties j).bind fun x ↦ act x d) d₀ order := by
  refine Machine.exec_congr (fun j hj d ↦ ?_) d₀
  have hji : j ≠ i := fun hji ↦ hi (hji ▸ hj)
  rw [Function.update_of_ne hji]

/-- A party moves on, and does not come to its end. -/
theorem Explained.quiet (h : Explained ended act d₀ d parties)
    (hi : ∀ y, parties i = some y → ¬ ended y) (hx : ¬ ended x) :
    Explained ended act d₀ d (Function.update parties i (some x)) := by
  obtain ⟨order, hnodup, hmem, hexec⟩ := h
  have hout : i ∉ order := fun him ↦ by
    obtain ⟨y, hy, hend⟩ := (hmem i).mp him
    exact hi y hy hend
  refine ⟨order, hnodup, fun j ↦ ?_, by rw [exec_update hout, hexec]⟩
  by_cases hj : j = i
  · subst hj
    simp [hout, hx]
  · rw [Function.update_of_ne hj]
    exact hmem j

/-- A party comes to its end: it is the last in the order. -/
theorem Explained.commit (h : Explained ended act d₀ d parties)
    (hi : ∀ y, parties i = some y → ¬ ended y) (hx : ended x) (hact : act x d = some d') :
    Explained ended act d₀ d' (Function.update parties i (some x)) := by
  obtain ⟨order, hnodup, hmem, hexec⟩ := h
  have hout : i ∉ order := fun him ↦ by
    obtain ⟨y, hy, hend⟩ := (hmem i).mp him
    exact hi y hy hend
  refine ⟨order ++ [i], ?_, fun j ↦ ?_, ?_⟩
  · exact List.nodup_append.mpr ⟨hnodup, by simp, fun a ha b hb hab ↦
      hout (List.mem_singleton.mp hb ▸ hab ▸ ha)⟩
  · by_cases hj : j = i
    · subst hj
      simp [hx]
    · simp only [Function.update_of_ne hj, List.mem_append, List.mem_singleton, hj, or_false]
      exact hmem j
  · refine Machine.exec_concat_eq_some.mpr ⟨d, by rw [exec_update hout, hexec], ?_⟩
    simpa using hact

end Explained

/-! ## Programs -/

/-- A program with accesses to a cell that holds an `S`, each of which can fail with an `E`. -/
inductive Prog (S : Type u) (E : Type v) (ρ : Type w) : Type (max u v w) where
  /-- The program has ended. -/
  | done (r : ρ)
  /-- Look whether the cell has a property; a failure counts as no. -/
  | test (q : S → Bool) (k : Bool → Prog S E ρ)
  /-- Read the cell. -/
  | get (k : Except E S → Prog S E ρ)
  /-- Write the cell; the program goes on with the failure, if there is one. -/
  | put (s : S) (k : Option E → Prog S E ρ)

namespace Prog

variable {S : Type u} {E : Type v} {ρ τ υ : Type w}

/-- One program after another. -/
def bind : Prog S E ρ → (ρ → Prog S E τ) → Prog S E τ
  | done r, f => f r
  | test q k, f => test q fun b ↦ (k b).bind f
  | get k, f => get fun x ↦ (k x).bind f
  | put s k, f => put s fun e ↦ (k e).bind f

instance : Monad (Prog S E) where
  pure := done
  bind := bind

@[simp] theorem pure_eq (r : ρ) : (pure r : Prog S E ρ) = done r := rfl

@[simp] theorem done_bind (r : ρ) (f : ρ → Prog S E τ) : done r >>= f = f r := rfl

@[simp] theorem test_bind (q : S → Bool) (k : Bool → Prog S E ρ) (f : ρ → Prog S E τ) :
    test q k >>= f = test q fun b ↦ k b >>= f := rfl

@[simp] theorem get_bind (k : Except E S → Prog S E ρ) (f : ρ → Prog S E τ) :
    get k >>= f = get fun x ↦ k x >>= f := rfl

@[simp] theorem put_bind (s : S) (k : Option E → Prog S E ρ) (f : ρ → Prog S E τ) :
    put s k >>= f = put s fun e ↦ k e >>= f := rfl

theorem bind_assoc' (p : Prog S E ρ) (f : ρ → Prog S E τ) (g : τ → Prog S E υ) :
    p >>= f >>= g = p >>= fun r ↦ f r >>= g := by
  induction p with
  | done r => rfl
  | test q k ih => simp [ih]
  | get k ih => simp [ih]
  | put s k ih => simp [ih]

theorem bind_done (p : Prog S E ρ) : p >>= done = p := by
  induction p with
  | done r => rfl
  | test q k ih => simp [ih]
  | get k ih => simp [ih]
  | put s k ih => simp [ih]

instance : LawfulMonad (Prog S E) :=
  .mk' (Prog S E) bind_done (fun _ _ ↦ rfl) bind_assoc'

/-- The program when nothing comes between its accesses and none fails. -/
def run : Prog S E ρ → S → ρ × S
  | done r, s => (r, s)
  | test q k, s => (k (q s)).run s
  | get k, s => (k (.ok s)).run s
  | put s k, _ => (k none).run s

@[simp] theorem run_done (r : ρ) (s : S) : (done r : Prog S E ρ).run s = (r, s) := rfl

@[simp] theorem run_bind (p : Prog S E ρ) (f : ρ → Prog S E τ) (s : S) :
    (p >>= f).run s = (f (p.run s).1).run (p.run s).2 := by
  induction p generalizing s with
  | done r => rfl
  | test q k ih => exact ih (q s) s
  | get k ih => exact ih (.ok s) s
  | put s' k ih => exact ih none s'

/-- The program when nothing comes between its accesses, and some of them fail: with what, and for a
write with what it leaves in the cell. -/
def runWith : Prog S E ρ → (ℕ → Option (E × S)) → S → ρ × S
  | done r, _, s => (r, s)
  | test q k, faults, s =>
    (k ((faults 0).elim (q s) fun _ ↦ false)).runWith (fun n ↦ faults (n + 1)) s
  | get k, faults, s =>
    (k ((faults 0).elim (.ok s) fun fault ↦ .error fault.1)).runWith (fun n ↦ faults (n + 1)) s
  | put s' k, faults, _ =>
    (k ((faults 0).map Prod.fst)).runWith (fun n ↦ faults (n + 1)) ((faults 0).elim s' Prod.snd)

/-- The program has ended, with a result that is as `ok` says. -/
def Ends (ok : ρ → Prop) (p : Prog S E ρ) : Prop := ∃ r, p = done r ∧ ok r

@[simp] theorem ends_done {ok : ρ → Prop} {r : ρ} : Ends ok (done r : Prog S E ρ) ↔ ok r := by
  simp [Ends]

@[simp] theorem not_ends_test {ok : ρ → Prop} {q : S → Bool} {k : Bool → Prog S E ρ} :
    ¬ Ends ok (test q k) := by simp [Ends]

@[simp] theorem not_ends_get {ok : ρ → Prop} {k : Except E S → Prog S E ρ} :
    ¬ Ends ok (get k) := by simp [Ends]

@[simp] theorem not_ends_put {ok : ρ → Prop} {s : S} {k : Option E → Prog S E ρ} :
    ¬ Ends ok (put s k) := by simp [Ends]

section Sound

variable {D : Type x} (ok : ρ → Prop) (view : S → D) (perform : D → D)
  (fresh : List (Except E S) → S → Prop)

/-- **What is asked of a program**, with a list of what it has seen in the cell: where it ends well
on a read that does not fail, the call has nothing to do; and where it ends well on a write and what
it has seen is still fresh, the write does what the call does.  It does not end well on a test, or
on a write that fails. -/
def Sound : Prog S E ρ → List (Except E S) → Prop
  | done _, _ => True
  | test _ k, seen => ∀ b, ¬ Ends ok (k b) ∧ (k b).Sound seen
  | get k, seen => (∀ s, Ends ok (k (.ok s)) → perform (view s) = view s) ∧
      ∀ x, (k x).Sound (seen ++ [x])
  | put s' k, seen => (Ends ok (k none) → ∀ s, fresh seen s → view s' = perform (view s)) ∧
      (k none).Sound (seen ++ [.ok s']) ∧
        ∀ e, ¬ Ends ok (k (some e)) ∧ (k (some e)).Sound seen

/-- **The condition on the next step of a program** in a cell that holds `s`, if it does not fail:
a last write comes while what the program has seen is fresh, and any other write leaves the view as
it is. -/
def Keeps (s : S) (seen : List (Except E S)) : Prog S E ρ → Prop
  | put s' k => (Ends ok (k none) → fresh seen s) ∧ (¬ Ends ok (k none) → view s' = view s)
  | _ => True

/-- The condition on a step that fails: a write leaves the view as it is, and a read after which the
program ends well is one of a call that has nothing to do. -/
def KeepsFault (s left : S) (e : E) : Prog S E ρ → Prop
  | put _ _ => view left = view s
  | get k => Ends ok (k (.error e)) → perform (view s) = view s
  | _ => True

end Sound

end Prog

/-! ## The pool -/

/-- A call that has begun: the operation, what it has seen in the cell, and what is left of its
program. -/
structure Call (C : Type u) (S : Type v) (E : Type w) (ρ : Type x) where
  /-- The operation. -/
  op : C
  /-- What the call has seen in the cell, or has written into it. -/
  seen : List (Except E S)
  /-- What is left of the program. -/
  rest : Prog S E ρ

/-- The cell and the calls. -/
structure Pool (C : Type u) (S : Type v) (E : Type w) (ρ : Type x) where
  /-- What the cell holds. -/
  cell : S
  /-- The calls that have begun. -/
  calls : ℕ → Option (Call C S E ρ)

/-- A label of the interleaving. -/
inductive Move (C : Type u) (S : Type v) (E : Type w) where
  /-- A new call begins. -/
  | invoke (i : ℕ) (c : C)
  /-- A call makes its next access. -/
  | advance (i : ℕ)
  /-- The next access of a call fails; a write that fails leaves `left` in the cell. -/
  | fault (i : ℕ) (e : E) (left : S)

variable {C : Type u} {S : Type v} {E : Type w} {ρ : Type x} {D : Type y}

/-- The next access of a call. -/
def Call.advance (call : Call C S E ρ) (s : S) : Option (S × Call C S E ρ) :=
  match call.rest with
  | .done _ => none
  | .test q k => some (s, { call with rest := k (q s) })
  | .get k => some (s, { call with seen := call.seen ++ [.ok s], rest := k (.ok s) })
  | .put s' k => some (s', { call with seen := call.seen ++ [.ok s'], rest := k none })

/-- The next access of a call, which fails. -/
def Call.fault (call : Call C S E ρ) (s left : S) (e : E) : Option (S × Call C S E ρ) :=
  match call.rest with
  | .done _ => none
  | .test _ k => some (s, { call with rest := k false })
  | .get k => some (s, { call with seen := call.seen ++ [.error e], rest := k (.error e) })
  | .put _ k => some (left, { call with rest := k (some e) })

namespace Pool

/-- No call has begun. -/
def start (s : S) : Pool C S E ρ := ⟨s, fun _ ↦ none⟩

/-- The pool after an access of the `i`-th call. -/
def after (p : Pool C S E ρ) (i : ℕ) (out : S × Call C S E ρ) : Pool C S E ρ :=
  ⟨out.1, Function.update p.calls i (some out.2)⟩

@[simp] theorem cell_after (p : Pool C S E ρ) (i : ℕ) (out : S × Call C S E ρ) :
    (p.after i out).cell = out.1 := rfl

@[simp] theorem calls_after_self (p : Pool C S E ρ) (i : ℕ) (out : S × Call C S E ρ) :
    (p.after i out).calls i = some out.2 := Function.update_self ..

@[simp] theorem calls_after_of_ne (p : Pool C S E ρ) {i j : ℕ} (h : j ≠ i)
    (out : S × Call C S E ρ) : (p.after i out).calls j = p.calls j := Function.update_of_ne h ..

@[simp] theorem after_after (p : Pool C S E ρ) (i : ℕ) (out out' : S × Call C S E ρ) :
    (p.after i out).after i out' = p.after i out' := by simp [after]

/-- One step of one call. -/
def step (prog : C → Prog S E ρ) (p : Pool C S E ρ) : Move C S E → Option (Pool C S E ρ)
  | .invoke i c => if (p.calls i).isSome then none else some (p.after i (p.cell, ⟨c, [], prog c⟩))
  | .advance i => (p.calls i).bind fun call ↦ (call.advance p.cell).map (p.after i)
  | .fault i e left => (p.calls i).bind fun call ↦ (call.fault p.cell left e).map (p.after i)

/-- What the cell holds after the `i`-th call, when nothing comes between its accesses. -/
def alone (prog : C → Prog S E ρ) (p : Pool C S E ρ) (s : S) (i : ℕ) : S :=
  match p.calls i with
  | some call => ((prog call.op).run s).2
  | none => s

end Pool

/-! ## Services -/

/-- Operations on a cell, with what a call does to what can be seen of the cell. -/
structure Service (C : Type u) (S : Type v) (E : Type w) (ρ : Type x) (D : Type y) where
  /-- The program of an operation. -/
  prog : C → Prog S E ρ
  /-- The results that count. -/
  ok : ρ → Prop
  /-- What can be seen of the cell. -/
  view : S → D
  /-- What an operation does. -/
  perform : C → D → D
  /-- What a call has seen is still so, as far as it matters to its last write. -/
  fresh : C → List (Except E S) → S → Prop
  /-- A call that nothing comes between does what it is to do. -/
  view_run : ∀ c s, view ((prog c).run s).2 = perform c (view s)
  /-- No program ends well without an access. -/
  not_ends : ∀ c, ¬ (prog c).Ends ok
  /-- The programs are sound. -/
  sound : ∀ c, (prog c).Sound ok view (perform c) (fresh c) []

namespace Service

variable (V : Service C S E ρ D)

/-- **The cell holds what a serial order of the calls with a good result leaves.** -/
def Serializable (s₀ : S) (p : Pool C S E ρ) : Prop :=
  ∃ order : List ℕ, order.Nodup ∧
    (∀ i, i ∈ order ↔ ∃ call, p.calls i = some call ∧ call.rest.Ends V.ok) ∧
    V.view (order.foldl (p.alone V.prog) s₀) = V.view p.cell

/-- **The condition on a step.** -/
def Keeps (p : Pool C S E ρ) : Move C S E → Prop
  | .invoke _ _ => True
  | .advance i => ∀ call, p.calls i = some call →
      call.rest.Keeps V.ok V.view (V.fresh call.op) p.cell call.seen
  | .fault i e left => ∀ call, p.calls i = some call →
      call.rest.KeepsFault V.ok V.view (V.perform call.op) p.cell left e

/-- What is so all along a run: the order in the abstract, and that what is left of the programs is
sound. -/
def Inv (d₀ : D) (p : Pool C S E ρ) : Prop :=
  Explained (fun call : Call C S E ρ ↦ call.rest.Ends V.ok)
      (fun call d ↦ some (V.perform call.op d)) d₀ (V.view p.cell) p.calls ∧
    ∀ i call, p.calls i = some call →
      call.rest.Sound V.ok V.view (V.perform call.op) (V.fresh call.op) call.seen

variable {V} {d₀ : D} {p p' : Pool C S E ρ} {i : ℕ} {call : Call C S E ρ}

/-- What an access does under the condition: it leaves the view as it is and does not end the call
well, or ends the call well and does what the call does. -/
def Does (V : Service C S E ρ D) (s : S) (out : S × Call C S E ρ) : Prop :=
  (¬ out.2.rest.Ends V.ok ∧ V.view out.1 = V.view s) ∨
    (out.2.rest.Ends V.ok ∧ V.view out.1 = V.perform out.2.op (V.view s))

/-- **A step of one call.** -/
theorem Inv.after {out : S × Call C S E ρ} (h : V.Inv d₀ p)
    (hi : ∀ c, p.calls i = some c → ¬ c.rest.Ends V.ok)
    (hsound : out.2.rest.Sound V.ok V.view (V.perform out.2.op) (V.fresh out.2.op) out.2.seen)
    (hdoes : V.Does p.cell out) : V.Inv d₀ (p.after i out) := by
  refine ⟨?_, fun j c hj ↦ ?_⟩
  · obtain ⟨hend, hview⟩ | ⟨hend, hview⟩ := hdoes
    · rw [Pool.after, hview]
      exact h.1.quiet hi hend
    · rw [Pool.after, hview]
      exact h.1.commit hi hend rfl
  · by_cases hji : j = i
    · subst hji
      rw [Pool.calls_after_self] at hj
      obtain rfl := Option.some.inj hj
      exact hsound
    · rw [Pool.calls_after_of_ne p hji] at hj
      exact h.2 j c hj

/-- An access that does not fail. -/
theorem does_of_advance {s : S} {out : S × Call C S E ρ}
    (hsound : call.rest.Sound V.ok V.view (V.perform call.op) (V.fresh call.op) call.seen)
    (hG : call.rest.Keeps V.ok V.view (V.fresh call.op) s call.seen)
    (h : call.advance s = some out) :
    V.Does s out ∧
      out.2.rest.Sound V.ok V.view (V.perform out.2.op) (V.fresh out.2.op) out.2.seen := by
  obtain ⟨op, seen, rest⟩ := call
  cases rest with
  | done r => cases h
  | test q k =>
    obtain rfl := Option.some.inj h
    exact ⟨Or.inl ⟨(hsound (q s)).1, rfl⟩, (hsound (q s)).2⟩
  | get k =>
    obtain rfl := Option.some.inj h
    refine ⟨?_, hsound.2 (.ok s)⟩
    by_cases hend : (k (.ok s)).Ends V.ok
    · exact Or.inr ⟨hend, (hsound.1 s hend).symm⟩
    · exact Or.inl ⟨hend, rfl⟩
  | put s' k =>
    obtain rfl := Option.some.inj h
    refine ⟨?_, hsound.2.1⟩
    by_cases hend : (k none).Ends V.ok
    · exact Or.inr ⟨hend, hsound.1 hend s (hG.1 hend)⟩
    · exact Or.inl ⟨hend, hG.2 hend⟩

/-- An access that fails. -/
theorem does_of_fault {s left : S} {e : E} {out : S × Call C S E ρ}
    (hsound : call.rest.Sound V.ok V.view (V.perform call.op) (V.fresh call.op) call.seen)
    (hG : call.rest.KeepsFault V.ok V.view (V.perform call.op) s left e)
    (h : call.fault s left e = some out) :
    V.Does s out ∧
      out.2.rest.Sound V.ok V.view (V.perform out.2.op) (V.fresh out.2.op) out.2.seen := by
  obtain ⟨op, seen, rest⟩ := call
  cases rest with
  | done r => cases h
  | test q k =>
    obtain rfl := Option.some.inj h
    exact ⟨Or.inl ⟨(hsound false).1, rfl⟩, (hsound false).2⟩
  | get k =>
    obtain rfl := Option.some.inj h
    refine ⟨?_, hsound.2 (.error e)⟩
    by_cases hend : (k (.error e)).Ends V.ok
    · exact Or.inr ⟨hend, (hG hend).symm⟩
    · exact Or.inl ⟨hend, rfl⟩
  | put s' k =>
    obtain rfl := Option.some.inj h
    exact ⟨Or.inl ⟨(hsound.2.2 e).1, hG⟩, (hsound.2.2 e).2⟩

/-- A call that has ended makes no access. -/
theorem not_ends_of_advance {s : S} {out : S × Call C S E ρ} (h : call.advance s = some out) :
    ¬ call.rest.Ends V.ok := by
  rintro ⟨r, hr, -⟩
  simp [Call.advance, hr] at h

theorem not_ends_of_fault {s left : S} {e : E} {out : S × Call C S E ρ}
    (h : call.fault s left e = some out) : ¬ call.rest.Ends V.ok := by
  rintro ⟨r, hr, -⟩
  simp [Call.fault, hr] at h

/-- **The step lemma.** -/
theorem Inv.step {a : Move C S E} (h : V.Inv d₀ p) (hG : V.Keeps p a)
    (hs : p.step V.prog a = some p') : V.Inv d₀ p' := by
  cases a with
  | invoke i c =>
    rw [Pool.step] at hs
    split at hs
    · cases hs
    · rename_i hnone
      obtain rfl := Option.some.inj hs
      refine h.after (fun c' hc' ↦ ?_) (V.sound c) (Or.inl ⟨V.not_ends c, rfl⟩)
      exact absurd (by rw [hc']; rfl) hnone
  | advance i =>
    obtain ⟨call, hcall, hmap⟩ := Option.bind_eq_some_iff.mp hs
    obtain ⟨out, hout, rfl⟩ := Option.map_eq_some_iff.mp hmap
    obtain ⟨hdoes, hsound⟩ := does_of_advance (h.2 i call hcall) (hG call hcall) hout
    refine h.after (fun c hc ↦ ?_) hsound hdoes
    obtain rfl := Option.some.inj (hcall.symm.trans hc)
    exact not_ends_of_advance hout
  | fault i e left =>
    obtain ⟨call, hcall, hmap⟩ := Option.bind_eq_some_iff.mp hs
    obtain ⟨out, hout, rfl⟩ := Option.map_eq_some_iff.mp hmap
    obtain ⟨hdoes, hsound⟩ := does_of_fault (h.2 i call hcall) (hG call hcall) hout
    refine h.after (fun c hc ↦ ?_) hsound hdoes
    obtain rfl := Option.some.inj (hcall.symm.trans hc)
    exact not_ends_of_fault hout

theorem view_alone (hi : p.calls i = some call) (s : S) :
    V.view (p.alone V.prog s i) = V.perform call.op (V.view s) := by
  rw [Pool.alone, hi]
  exact V.view_run call.op s

/-- What an order of calls does in the abstract is what their programs do one after the other. -/
theorem view_foldl_alone {order : List ℕ} {s₀ : S} {d : D}
    (h : Machine.exec (fun d i ↦ (p.calls i).bind fun call ↦ some (V.perform call.op d))
      (V.view s₀) order = some d) : V.view (order.foldl (p.alone V.prog) s₀) = d := by
  induction order generalizing s₀ with
  | nil => exact Option.some.inj h
  | cons i order ih =>
    obtain ⟨d', hd', h⟩ := Machine.exec_cons_eq_some.mp h
    obtain ⟨call, hcall, hd'⟩ := Option.bind_eq_some_iff.mp hd'
    obtain rfl := Option.some.inj hd'
    exact ih (by rw [view_alone hcall, h])

/-- **No update is lost.**  In a run in which every step meets the condition, the cell holds what a
serial order of the calls with a good result leaves. -/
theorem serializable_of_keeps {s₀ : S} {as : List (Move C S E)}
    (hrun : Machine.exec (Pool.step V.prog) (.start s₀) as = some p)
    (hG : Machine.Guarded (Pool.step V.prog) V.Keeps (.start s₀) as) : V.Serializable s₀ p := by
  have hstart : V.Inv (V.view s₀) (.start s₀) := ⟨explained_start, fun _ _ h ↦ by cases h⟩
  obtain ⟨⟨order, hnodup, hmem, hexec⟩, -⟩ : V.Inv (V.view s₀) p :=
    Machine.inv_of_guarded (fun _ _ _ h hg hs ↦ h.step hg hs) hstart hG hrun
  exact ⟨order, hnodup, hmem, view_foldl_alone hexec⟩

end Service

/-! ## A call that nothing comes between -/

section Alone

variable {prog : C → Prog S E ρ} {c : C} {p : Pool C S E ρ} {i : ℕ} {s s' t : S}
  {seen seen' : List (Except E S)} {rest rest' : Prog S E ρ} {r : ρ}

/-- A call makes an access, and then the others. -/
theorem exec_advance
    (hout : Call.advance ⟨c, seen, rest⟩ s = some (s', ⟨c, seen', rest'⟩))
    (hrest : ∃ n last, Machine.exec (Pool.step prog) (p.after i (s', ⟨c, seen', rest'⟩))
      (List.replicate n (.advance i)) = some (p.after i (t, ⟨c, last, .done r⟩))) :
    ∃ n last, Machine.exec (Pool.step prog) (p.after i (s, ⟨c, seen, rest⟩))
      (List.replicate n (.advance i)) = some (p.after i (t, ⟨c, last, .done r⟩)) := by
  obtain ⟨n, last, hn⟩ := hrest
  exact ⟨n + 1, last, Machine.exec_cons_eq_some.mpr ⟨_, by simp [Pool.step, hout], hn⟩⟩

/-- **A call that nothing comes between does what its program does.** -/
theorem exec_alone (prog : C → Prog S E ρ) (c : C) (hi : p.calls i = none) :
    ∃ n seen, Machine.exec (Pool.step prog) p (.invoke i c :: List.replicate n (.advance i)) =
      some (p.after i (((prog c).run p.cell).2, ⟨c, seen, .done ((prog c).run p.cell).1⟩)) := by
  suffices h : ∀ (rest : Prog S E ρ) (seen : List (Except E S)) (s : S),
      ∃ n last, Machine.exec (Pool.step prog) (p.after i (s, ⟨c, seen, rest⟩))
          (List.replicate n (.advance i)) =
        some (p.after i ((rest.run s).2, ⟨c, last, .done (rest.run s).1⟩)) by
    obtain ⟨n, last, hn⟩ := h (prog c) [] p.cell
    exact ⟨n, last, Machine.exec_cons_eq_some.mpr ⟨_, by simp [Pool.step, hi], hn⟩⟩
  intro rest
  induction rest with
  | done r => exact fun seen s ↦ ⟨0, seen, rfl⟩
  | test q k ih => exact fun seen s ↦ exec_advance rfl (ih (q s) seen s)
  | get k ih => exact fun seen s ↦ exec_advance rfl (ih (.ok s) (seen ++ [.ok s]) s)
  | put s' k ih => exact fun seen s ↦ exec_advance rfl (ih none (seen ++ [.ok s']) s')

end Alone

end Serial
