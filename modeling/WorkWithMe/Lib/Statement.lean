import Mathlib.Logic.Basic

/-!
# Statements and transactions

A statement is a function from a database to a database, or to the error it ends in.  It may also
fail for a reason of its own, which the environment chooses: the disk is full, the file is locked.
The program puts the place it happened at in front of either error.

A transaction runs some statements in a row and stops at the first one that fails.  Until it has
committed nothing of it is to be seen, so whoever runs one goes on with the database it returns,
or with the one there was before: that is `settle`.
-/

set_option autoImplicit false

universe u

/-- A statement of a database. -/
abbrev Statement (D : Type u) := D → Except String D

namespace Statement

variable {D : Type u}

/-- Run a statement that the environment may let fail. -/
def execute (context : String) (fault : Option String) (stmt : Statement D) : Statement D :=
  fun db ↦
    match fault with
    | some e => .error (context ++ ": " ++ e)
    | none => (stmt db).mapError fun e ↦ context ++ ": " ++ e

/-- Run some statements in a row. -/
def runAll : List (String × Option String × Statement D) → Statement D
  | [], db => .ok db
  | (context, fault, stmt) :: rest, db => (execute context fault stmt db).bind (runAll rest)

/-- The database after a statement or a transaction: a failed one is rolled back. -/
def settle (db : D) : Except String D → D
  | .ok db' => db'
  | .error _ => db

variable {context : String} {fault : Option String} {stmt : Statement D} {db db' : D}
  {rest : List (String × Option String × Statement D)}

/-- A statement has succeeded when neither the environment nor itself let it fail. -/
theorem execute_eq_ok :
    execute context fault stmt db = .ok db' ↔ fault = none ∧ stmt db = .ok db' := by
  unfold execute
  cases fault with
  | some e => simp
  | none =>
    rw [eq_self_iff_true, true_and]
    cases stmt db with
    | ok r => exact Iff.rfl
    | error e => exact iff_of_false (fun h ↦ by cases h) fun h ↦ by cases h

theorem runAll_nil_eq_ok : runAll [] db = .ok db' ↔ db = db' := by
  rw [runAll, Except.ok.injEq]

theorem runAll_cons_eq_ok : runAll ((context, fault, stmt) :: rest) db = .ok db' ↔
    fault = none ∧ ∃ r, stmt db = .ok r ∧ runAll rest r = .ok db' := by
  rw [runAll]
  cases h : execute context fault stmt db with
  | error e =>
    have hne : ¬ (fault = none ∧ ∃ r, stmt db = .ok r) := by
      rintro ⟨hf, r, hr⟩
      rw [execute_eq_ok.mpr ⟨hf, hr⟩] at h
      cases h
    simp only [Except.bind, reduceCtorEq, false_iff]
    exact fun ⟨hf, r, hr, _⟩ ↦ hne ⟨hf, r, hr⟩
  | ok r =>
    obtain ⟨hf, hr⟩ := execute_eq_ok.mp h
    simp [Except.bind, hf, hr]

@[simp] theorem settle_ok : settle db (.ok db') = db' := rfl

@[simp] theorem settle_error (e : String) : settle db (.error e) = db := rfl

/-- What the successful statements keep, is kept. -/
theorem settle_of {P : D → Prop} (h : P db) {r : Except String D}
    (hr : ∀ db', r = .ok db' → P db') : P (settle db r) := by
  cases r with
  | ok db' => exact hr db' rfl
  | error e => exact h

end Statement
