import Mathlib.Data.Int.Order.Basic
import Mathlib.Data.List.Induction
import Mathlib.Order.Nat

/-!
# A limit on what is accepted within a time

A limiter keeps the times at which it has accepted something, and forgets them when they are too
old.  It refuses as long as the times that it keeps are as many as allowed.

* `answer max width` is what it does at a time, and `run` what it does at one time after another.
* `kept_run` is the invariant: as far as anything counts at a later time, what is kept is what has
  been accepted.
* `length_inWindow_le` says that no window ever has more than what is allowed, wherever it lies, and
  `answer_eq_true_iff` that the limiter refuses exactly when the window that ends now is full.

The times must not go down.
-/

set_option autoImplicit false

namespace Limiter

/-- The times in the window of a width that ends at a time: `(t - width, t]`. -/
def inWindow (width t : ℤ) (times : List ℤ) : List ℤ :=
  times.filter fun x ↦ t - width < x ∧ x ≤ t

/-- What the limiter does at a time: whether it refuses, and what it keeps. -/
def answer (max : ℕ) (width now : ℤ) (kept : List ℤ) : Bool × List ℤ :=
  let counted := kept.filter fun x ↦ now - x < width
  if max ≤ counted.length then (true, counted) else (false, counted ++ [now])

/-- The answers so far, with their times, and what is kept. -/
structure State where
  /-- The times, and whether the limiter has refused. -/
  answers : List (ℤ × Bool)
  /-- What is kept. -/
  kept : List ℤ

/-- The limiter is asked at a time. -/
def State.ask (max : ℕ) (width : ℤ) (s : State) (now : ℤ) : State :=
  ⟨s.answers ++ [(now, (answer max width now s.kept).1)], (answer max width now s.kept).2⟩

/-- The limiter is asked at one time after another. -/
def run (max : ℕ) (width : ℤ) (times : List ℤ) : State :=
  times.foldl (State.ask max width) ⟨[], []⟩

/-- The times at which something has been accepted. -/
def accepted (answers : List (ℤ × Bool)) : List ℤ := (answers.filter fun p ↦ !p.2).map Prod.fst

section Run

variable {max : ℕ} {width : ℤ} {times : List ℤ} {now : ℤ}

theorem run_concat (times : List ℤ) (now : ℤ) :
    run max width (times ++ [now]) = (run max width times).ask max width now := by
  rw [run, List.foldl_append]
  rfl

theorem map_fst_answers (times : List ℤ) : (run max width times).answers.map Prod.fst = times := by
  induction times using List.reverseRecOn with
  | nil => rfl
  | append_singleton times now ih =>
    rw [run_concat, State.ask, List.map_append, ih]
    rfl

/-- What has been accepted is among what has been asked for. -/
theorem mem_of_mem_accepted {x : ℤ} (h : x ∈ accepted (run max width times).answers) :
    x ∈ times := by
  obtain ⟨p, hp, rfl⟩ := List.mem_map.mp h
  have htimes : (run max width times).answers.map Prod.fst = times := map_fst_answers times
  rw [← htimes]
  exact List.mem_map_of_mem ((List.mem_filter.mp hp).1)

theorem accepted_concat (times : List ℤ) (now : ℤ) :
    accepted (run max width (times ++ [now])).answers =
      accepted (run max width times).answers ++
        if (answer max width now (run max width times).kept).1 then [] else [now] := by
  rw [run_concat, State.ask, accepted, List.filter_append, List.map_append, ← accepted]
  cases (answer max width now (run max width times).kept).1 <;> rfl

theorem kept_concat (times : List ℤ) (now : ℤ) :
    (run max width (times ++ [now])).kept =
      (run max width times).kept.filter (fun x ↦ now - x < width) ++
        if (answer max width now (run max width times).kept).1 then [] else [now] := by
  rw [run_concat, State.ask, answer]
  dsimp only
  split
  · simp
  · simp

/-- What counts at a time still counted before. -/
theorem filter_filter_of_le {m n : ℤ} (h : m ≤ n) (l : List ℤ) :
    (l.filter fun x ↦ m - x < width).filter (fun x ↦ n - x < width) =
      l.filter fun x ↦ n - x < width := by
  rw [List.filter_filter]
  refine List.filter_congr fun x _ ↦ ?_
  rw [Bool.eq_iff_iff, Bool.and_eq_true, decide_eq_true_eq, decide_eq_true_eq]
  omega

/-- **What is kept is what has been accepted**, as far as it counts at a time that is not over. -/
theorem kept_run (h : times.Pairwise (· ≤ ·)) (hnow : ∀ x ∈ times, x ≤ now) :
    (run max width times).kept.filter (fun x ↦ now - x < width) =
      (accepted (run max width times).answers).filter fun x ↦ now - x < width := by
  induction times using List.reverseRecOn generalizing now with
  | nil => rfl
  | append_singleton times last ih =>
    obtain ⟨hsorted, -, hlast⟩ := List.pairwise_append.mp h
    have hold : ∀ x ∈ times, x ≤ last := fun x hx ↦ hlast x hx last (List.mem_singleton_self last)
    have hle : last ≤ now := hnow last (List.mem_append_right _ (List.mem_singleton_self last))
    rw [kept_concat, accepted_concat, List.filter_append, List.filter_append, ih hsorted hold,
      filter_filter_of_le hle]

/-- What counts now is what the window that ends now has of what has been accepted. -/
theorem filter_kept_run (h : times.Pairwise (· ≤ ·)) (hnow : ∀ x ∈ times, x ≤ now) :
    (run max width times).kept.filter (fun x ↦ now - x < width) =
      inWindow width now (accepted (run max width times).answers) := by
  rw [kept_run h hnow]
  refine List.filter_congr fun x hx ↦ ?_
  have hle := hnow x (mem_of_mem_accepted hx)
  rw [decide_eq_decide]
  omega

theorem answer_eq (h : times.Pairwise (· ≤ ·)) (hnow : ∀ x ∈ times, x ≤ now) :
    (answer max width now (run max width times).kept).1 = true ↔
      max ≤ (inWindow width now (accepted (run max width times).answers)).length := by
  rw [← filter_kept_run h hnow, answer]
  split
  · exact iff_of_true rfl ‹_›
  · exact iff_of_false Bool.false_ne_true ‹_›

/-- **No window has more than is allowed.** -/
theorem length_inWindow_le (h : times.Pairwise (· ≤ ·)) (t : ℤ) :
    (inWindow width t (accepted (run max width times).answers)).length ≤ max := by
  induction times using List.reverseRecOn with
  | nil => exact Nat.zero_le max
  | append_singleton times last ih =>
    obtain ⟨hsorted, -, hlast⟩ := List.pairwise_append.mp h
    have hold : ∀ x ∈ times, x ≤ last := fun x hx ↦ hlast x hx last (List.mem_singleton_self last)
    rw [accepted_concat]
    split
    · rw [List.append_nil]
      exact ih hsorted
    · rename_i hanswer
      rw [answer_eq hsorted hold, not_le] at hanswer
      rw [inWindow, List.filter_append, ← inWindow]
      by_cases hin : t - width < last ∧ last ≤ t
      · -- what is in this window was in the one that ended with the last one
        have hlen : (inWindow width t (accepted (run max width times).answers)).length ≤
            (inWindow width last (accepted (run max width times).answers)).length := by
          rw [inWindow, inWindow, ← List.countP_eq_length_filter, ← List.countP_eq_length_filter]
          refine List.countP_mono_left fun x hx hcount ↦ ?_
          have hle := hold x (mem_of_mem_accepted hx)
          rw [decide_eq_true_eq] at hcount ⊢
          omega
        have hone : [last].filter (fun x ↦ t - width < x ∧ x ≤ t) = [last] := by simp [hin]
        rw [hone, List.length_append, List.length_singleton]
        omega
      · have hempty : [last].filter (fun x ↦ t - width < x ∧ x ≤ t) = [] := by simp [hin]
        rw [hempty, List.append_nil]
        exact ih hsorted

/-- **The limiter refuses when the window that ends now is full.** -/
theorem answer_eq_true_iff (h : times.Pairwise (· ≤ ·)) (hnow : ∀ x ∈ times, x ≤ now) :
    (answer max width now (run max width times).kept).1 = true ↔
      (inWindow width now (accepted (run max width times).answers)).length = max := by
  rw [answer_eq h hnow]
  exact ⟨fun hle ↦ le_antisymm (length_inWindow_le h now) hle, fun heq ↦ heq.ge⟩

end Run

end Limiter
