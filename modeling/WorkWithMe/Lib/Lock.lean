import Mathlib.Data.List.Basic

/-!
# Fair locks

A `Lock` is held for reading by any number of parties, or for writing by a single one.  Who asks
for it and cannot have it at once goes to the end of the line, and whenever the lock comes free it
is handed out from the front of the line as far as that goes.  So nobody overtakes: a reader that
comes after a waiting writer waits too.  A mutex is a lock that everybody asks for writing.

That a writer holds the lock alone, and that whoever is at the front of the line cannot have it
yet, are part of the type.

* `Lock.uses_ask` and `Lock.uses_release` say who has to do with a lock after an operation, and
  `Lock.Holds.ask`, `Lock.Holds.release`, `Lock.Waits.of_ask` and `Lock.Waits.of_release` who
  holds it and who waits for it.
* `Lock.Ahead y x` says that `y` keeps `x` waiting: it holds the lock, or it is in the line before
  `x`.
-/

set_option autoImplicit false

/-! ## The type of locks -/

/-- What a lock is asked for. -/
inductive Mode where
  /-- For reading. -/
  | read
  /-- For writing. -/
  | write
  deriving DecidableEq

variable {T : Type}

/-- Can a party have the lock in this mode, beside those that hold it? -/
def Mode.fits : Mode → List (T × Mode) → Bool
  | .read, hs => hs.all fun x ↦ x.2 == .read
  | .write, hs => hs.isEmpty

/-- Whoever holds the lock for writing holds it alone. -/
def Exclusive (hs : List (T × Mode)) : Prop := ∀ x ∈ hs, x.2 = .write → hs = [x]

/-- A fair lock for readers and writers. -/
structure Lock (T : Type) where
  /-- Those that hold it. -/
  holders : List (T × Mode)
  /-- Those that wait for it, the longest first. -/
  line : List (T × Mode)
  /-- A writer is alone. -/
  excl : Exclusive holders
  /-- The front of the line cannot have it yet. -/
  settled : ∀ x ∈ line.head?, x.2.fits holders = false

namespace Exclusive

theorem nil : Exclusive ([] : List (T × Mode)) := fun _ hx ↦ absurd hx List.not_mem_nil

/-- Who fits beside the holders may join them. -/
theorem concat {hs : List (T × Mode)} {x : T × Mode} (h : Exclusive hs)
    (hx : x.2.fits hs = true) : Exclusive (hs ++ [x]) := by
  rcases x with ⟨t, m⟩
  cases m with
  | write =>
    obtain rfl : hs = [] := by simpa [Mode.fits] using hx
    simp [Exclusive]
  | read =>
    intro y hy hw
    have hr : ∀ z ∈ hs, z.2 = .read := by simpa [Mode.fits] using hx
    rcases List.mem_append.mp hy with hy | hy
    · rw [hr y hy] at hw
      cases hw
    · rw [List.mem_singleton.mp hy] at hw
      cases hw

theorem filter {hs : List (T × Mode)} (h : Exclusive hs) (p : T × Mode → Bool) :
    Exclusive (hs.filter p) := by
  intro x hx hw
  obtain ⟨hx, hp⟩ := List.mem_filter.mp hx
  rw [h x hx hw, List.filter_singleton, hp, cond_true]

end Exclusive

namespace Lock

/-! ## The operations -/

/-- Nobody holds the lock. -/
def free : Lock T := ⟨[], [], .nil, by simp⟩

/-- Hand the lock out from the front of the line, as far as that goes. -/
def grant : (hs : List (T × Mode)) → Exclusive hs → List (T × Mode) → Lock T
  | hs, hx, [] => ⟨hs, [], hx, by simp⟩
  | hs, hx, x :: line =>
    if h : x.2.fits hs = true then grant (hs ++ [x]) (hx.concat h) line
    else ⟨hs, x :: line, hx, by simpa using h⟩

/-- A party asks for the lock. -/
def ask (l : Lock T) (t : T) (m : Mode) : Lock T := grant l.holders l.excl (l.line ++ [(t, m)])

/-- A party is done with the lock, whether it holds it or still waits for it. -/
def release [DecidableEq T] (l : Lock T) (t : T) : Lock T :=
  grant (l.holders.filter fun x ↦ x.1 ≠ t) (l.excl.filter _) (l.line.filter fun x ↦ x.1 ≠ t)

/-- The party holds the lock. -/
def Holds (l : Lock T) (t : T) : Prop := ∃ m, (t, m) ∈ l.holders

/-- The party waits for the lock. -/
def Waits (l : Lock T) (t : T) : Prop := ∃ m, (t, m) ∈ l.line

/-- The party holds the lock or waits for it. -/
def Uses (l : Lock T) (t : T) : Prop := l.Holds t ∨ l.Waits t

/-- `y` keeps `x` waiting: it holds the lock, or it is in the line before `x`. -/
def Ahead (l : Lock T) (y x : T) : Prop :=
  ∃ pre m post, l.line = pre ++ (x, m) :: post ∧ (l.Holds y ∨ ∃ m', (y, m') ∈ pre)

instance [DecidableEq T] (l : Lock T) (t : T) : Decidable (l.Holds t) :=
  decidable_of_iff (t ∈ l.holders.map Prod.fst) (by simp [Holds])

instance [DecidableEq T] (l : Lock T) (t : T) : Decidable (l.Waits t) :=
  decidable_of_iff (t ∈ l.line.map Prod.fst) (by simp [Waits])

/-! ## What the operations do -/

/-- **What handing out does**: a part of the line, from its front, joins the holders. -/
theorem grant_eq (hs : List (T × Mode)) (hx : Exclusive hs) (line : List (T × Mode)) :
    ∃ new, (grant hs hx line).holders = hs ++ new ∧ line = new ++ (grant hs hx line).line := by
  induction line generalizing hs with
  | nil => exact ⟨[], (List.append_nil hs).symm, rfl⟩
  | cons x line ih =>
    rw [grant]
    split
    · rename_i h
      obtain ⟨new, hh, hl⟩ := ih (hs ++ [x]) (hx.concat h)
      refine ⟨x :: new, ?_, by rw [List.cons_append, ← hl]⟩
      rw [hh, List.append_assoc, List.singleton_append]
    · exact ⟨[], (List.append_nil hs).symm, rfl⟩

variable {l : Lock T} {t u : T} {m : Mode}

theorem uses_iff : l.Uses u ↔ ∃ m, (u, m) ∈ l.holders ++ l.line := by
  simp only [Uses, Holds, Waits, List.mem_append, exists_or]

theorem uses_grant {hs line : List (T × Mode)} {hx : Exclusive hs} :
    (grant hs hx line).Uses u ↔ ∃ m, (u, m) ∈ hs ++ line := by
  obtain ⟨new, hh, hl⟩ := grant_eq hs hx line
  rw [uses_iff, hh, List.append_assoc, ← hl]

/-- Who has to do with a lock once `t` has asked for it. -/
theorem uses_ask : (l.ask t m).Uses u ↔ l.Uses u ∨ u = t := by
  rw [ask, uses_grant, uses_iff, ← List.append_assoc]
  simp only [List.mem_append (t := [_]), List.mem_singleton, Prod.mk.injEq, exists_or,
    exists_and_left, exists_eq, and_true]

/-- Who has to do with a lock once `t` is done with it. -/
theorem uses_release [DecidableEq T] : (l.release t).Uses u ↔ l.Uses u ∧ u ≠ t := by
  rw [release, uses_grant, uses_iff, ← List.filter_append]
  simp only [List.mem_filter, decide_eq_true_eq, exists_and_right]

/-- Who holds a lock goes on holding it when another one asks. -/
theorem Holds.ask (h : l.Holds u) : (l.ask t m).Holds u := by
  obtain ⟨new, hh, -⟩ := grant_eq l.holders l.excl (l.line ++ [(t, m)])
  obtain ⟨m', hm⟩ := h
  exact ⟨m', by rw [Lock.ask, hh]; exact List.mem_append_left _ hm⟩

/-- Who holds a lock goes on holding it when another one is done with it. -/
theorem Holds.release [DecidableEq T] (h : l.Holds u) (hu : u ≠ t) : (l.release t).Holds u := by
  obtain ⟨new, hh, -⟩ := grant_eq (l.holders.filter fun x ↦ x.1 ≠ t) (l.excl.filter _)
    (l.line.filter fun x ↦ x.1 ≠ t)
  obtain ⟨m', hm⟩ := h
  refine ⟨m', ?_⟩
  rw [Lock.release, hh]
  exact List.mem_append_left _ (List.mem_filter.mpr ⟨hm, by simpa using hu⟩)

/-- Who waits once `t` has asked. -/
theorem Waits.of_ask (h : (l.ask t m).Waits u) : l.Waits u ∨ u = t := by
  obtain ⟨new, -, hl⟩ := grant_eq l.holders l.excl (l.line ++ [(t, m)])
  obtain ⟨m', hm⟩ := h
  have hmem : (u, m') ∈ l.line ++ [(t, m)] := by
    rw [hl]
    exact List.mem_append_right _ hm
  rcases List.mem_append.mp hmem with hu | hu
  · exact Or.inl ⟨m', hu⟩
  · exact Or.inr (Prod.mk.inj (List.mem_singleton.mp hu)).1

/-- Nobody begins to wait because another one is done. -/
theorem Waits.of_release [DecidableEq T] (h : (l.release t).Waits u) : l.Waits u := by
  obtain ⟨new, -, hl⟩ := grant_eq (l.holders.filter fun x ↦ x.1 ≠ t) (l.excl.filter _)
    (l.line.filter fun x ↦ x.1 ≠ t)
  obtain ⟨m', hm⟩ := h
  have hmem : (u, m') ∈ l.line.filter fun x ↦ x.1 ≠ t := by
    rw [hl]
    exact List.mem_append_right _ hm
  exact ⟨m', (List.mem_filter.mp hmem).1⟩

/-- Where nobody holds a lock, nobody waits for it. -/
theorem line_eq_nil (h : l.holders = []) : l.line = [] := by
  cases hl : l.line with
  | nil => rfl
  | cons x line =>
    have hfit := l.settled x (by simp [hl])
    rw [h] at hfit
    rcases x with ⟨t, _ | _⟩ <;> cases hfit

/-- **A lock that is asked for writing is had at once or waited for**, as nobody or somebody holds
it. -/
theorem waits_ask_write (ht : ¬ l.Uses t) : (l.ask t .write).Waits t ↔ l.holders ≠ [] := by
  constructor
  · rintro h hnil
    have hask : (l.ask t .write).line = [] := by
      simp [ask, line_eq_nil hnil, grant, hnil, Mode.fits]
    obtain ⟨m', hm⟩ := h
    rw [hask] at hm
    cases hm
  · intro hne
    have hask : (l.ask t .write).Uses t := uses_ask.mpr (Or.inr rfl)
    refine hask.resolve_left fun hh ↦ ?_
    obtain ⟨m', hm⟩ := hh
    obtain ⟨new, hnew, hl⟩ := grant_eq l.holders l.excl (l.line ++ [(t, .write)])
    rw [ask, hnew] at hm
    -- `t` holds the lock only if it was handed out to it, and for writing that is to `t` alone
    have htnew : (t, m') ∈ new := (List.mem_append.mp hm).resolve_left fun hm ↦ ht (.inl ⟨m', hm⟩)
    have hw : m' = .write := by
      have hmem : (t, m') ∈ l.line ++ [(t, .write)] := by
        rw [hl]
        exact List.mem_append_left _ htnew
      rcases List.mem_append.mp hmem with hu | hu
      · exact absurd (Or.inr ⟨m', hu⟩) ht
      · exact (Prod.mk.inj (List.mem_singleton.mp hu)).2
    subst hw
    have halone := (grant l.holders l.excl (l.line ++ [(t, .write)])).excl (t, .write)
      (by rw [hnew]; exact List.mem_append_right _ htnew) rfl
    rw [hnew] at halone
    obtain ⟨x, hs⟩ := List.exists_mem_of_ne_nil _ hne
    have hx : x = (t, .write) := by
      have hmem : x ∈ l.holders ++ new := List.mem_append_left _ hs
      rw [halone] at hmem
      exact List.mem_singleton.mp hmem
    exact ht (.inl ⟨.write, hx ▸ hs⟩)

theorem Ahead.waits {x y : T} (h : l.Ahead y x) : l.Waits x := by
  obtain ⟨pre, m, post, hl, -⟩ := h
  exact ⟨m, by rw [hl]; simp⟩

theorem Ahead.uses {x y : T} (h : l.Ahead y x) : l.Uses y := by
  obtain ⟨pre, m, post, hl, hy⟩ := h
  refine hy.imp id fun ⟨m', hm⟩ ↦ ⟨m', ?_⟩
  rw [hl]
  exact List.mem_append_left _ hm

@[simp] theorem not_uses_free : ¬ (free : Lock T).Uses u := by
  rw [uses_iff]
  simp [free]

end Lock
