import Mathlib.Data.Set.Basic
import Mathlib.Order.WellFounded

/-!
# Who waits for whom

Parties that hold mutexes and ask for further ones.  Nothing is said here of how the mutexes are
handed out: a `Waiting` is a moment of such a system, with the party that holds each mutex, and the
mutex that each party asks for.

* `Waiting.Deadlocked` says that there are parties each of which waits for another one of them.
* `Waiting.not_deadlocked_of_order` is the rule of the lock order: where every party that holds a
  mutex asks only for mutexes further down in a well-founded order, there is no deadlock.
* `Waiting.deadlocked_of_crossed` is what becomes of two parties that go by different orders.
-/

set_option autoImplicit false

universe u v

/-- Who holds which mutex, and who asks for which. -/
structure Waiting (T : Type u) (M : Type v) where
  /-- The party that holds the mutex. -/
  holder : M → Option T
  /-- The mutex that the party asks for. -/
  asks : T → Option M

namespace Waiting

variable {T : Type u} {M : Type v} {w : Waiting T M}

/-- `t` waits for a mutex that `u` holds. -/
def WaitsFor (w : Waiting T M) (t u : T) : Prop :=
  u ≠ t ∧ ∃ m, w.asks t = some m ∧ w.holder m = some u

/-- **A deadlock**: there are parties each of which waits for another one of them. -/
def Deadlocked (w : Waiting T M) : Prop :=
  ∃ D : Set T, D.Nonempty ∧ ∀ t ∈ D, ∃ u ∈ D, w.WaitsFor t u

/-- **The rule of the lock order.** -/
theorem not_deadlocked_of_order {r : M → M → Prop} (hr : WellFounded r)
    (h : ∀ t m m', w.holder m = some t → w.asks t = some m' → r m' m) : ¬ w.Deadlocked := by
  rintro ⟨D, ⟨t, ht⟩, hD⟩
  -- no mutex is held by one of the parties: it would ask for one further down, which is held too
  have hfree : ∀ m, ∀ u ∈ D, w.holder m ≠ some u := by
    intro m
    induction m using hr.induction with
    | h m ih =>
      intro u hu hm
      obtain ⟨v, hv, -, m', hasks, hm'⟩ := hD u hu
      exact ih m' (h u m m' hm hasks) v hv hm'
  obtain ⟨u, hu, -, m, -, hm⟩ := hD t ht
  exact hfree m u hu hm

/-- **Two parties that go by different orders**: each holds what the other asks for. -/
theorem deadlocked_of_crossed {t u : T} {m m' : M} (htu : t ≠ u) (ht : w.holder m = some t)
    (hu : w.holder m' = some u) (hta : w.asks t = some m') (hua : w.asks u = some m) :
    w.Deadlocked := by
  refine ⟨{t, u}, Set.insert_nonempty t {u}, ?_⟩
  rintro x (rfl | rfl)
  · exact ⟨u, .inr rfl, htu.symm, m', hta, hu⟩
  · exact ⟨t, .inl rfl, htu, m, hua, ht⟩

end Waiting
