import Mathlib.Data.List.Basic
import Mathlib.Data.List.Induction

/-!
# Machines that take labelled steps

A machine is a partial function `step : σ → α → Option σ`: in the state `s` the label `a` is
enabled when `step s a` is a state, and that is the state the step leads to.  A label names one
atomic step of one party together with whatever the environment chose for it, so a list of labels
is a schedule, and an interleaving of several parties is nothing more than a list in which their
labels alternate.

* `Machine.exec` runs a schedule, and fails when a label of it is not enabled.
* `Machine.inv_of_exec` turns a step lemma into a run lemma: what every step keeps, every run
  keeps.  `Machine.history_of_exec` does the same for a property of the schedule taken so far
  *and* the state it led to, which is what a statement about the order of two steps needs.
* `Machine.Guarded G` says that every step of a schedule is taken in a state in which `G` allows
  it, and `Machine.inv_of_guarded` is the run lemma for an invariant that such steps keep;
  `Machine.inv_iff_guarded` is the one for an invariant that no other step keeps,
  `Machine.forall_steps_iff_guarded` the one for a law of single steps,
  `Machine.inv_and_law_iff_guarded` the one for both together, and
  `Machine.forall_history_iff_guarded` the one for a property that has such an invariant.
* `Machine.Precedes x y as` says that some `y` in the schedule `as` has an `x` before it.
-/

set_option autoImplicit false

namespace Machine

universe u v

variable {σ : Type u} {α : Type v}

/-! ## Running a schedule -/

/-- The state in which the schedule ends, if every label of it is enabled in its turn. -/
def exec (step : σ → α → Option σ) : σ → List α → Option σ
  | s, [] => some s
  | s, a :: as => (step s a).bind fun t ↦ exec step t as

variable {step : σ → α → Option σ}

@[simp] theorem exec_nil (s : σ) : exec step s [] = some s := rfl

theorem exec_cons (s : σ) (a : α) (as : List α) :
    exec step s (a :: as) = (step s a).bind fun t ↦ exec step t as := rfl

theorem exec_cons_eq_some {s t : σ} {a : α} {as : List α} :
    exec step s (a :: as) = some t ↔ ∃ r, step s a = some r ∧ exec step r as = some t := by
  rw [exec_cons, Option.bind_eq_some_iff]

theorem exec_append (s : σ) (as bs : List α) :
    exec step s (as ++ bs) = (exec step s as).bind fun t ↦ exec step t bs := by
  induction as generalizing s with
  | nil => rfl
  | cons a as ih =>
    rw [List.cons_append, exec_cons, exec_cons, Option.bind_assoc]
    exact Option.bind_congr fun t _ ↦ ih t

theorem exec_concat_eq_some {s t : σ} {a : α} {as : List α} :
    exec step s (as ++ [a]) = some t ↔ ∃ r, exec step s as = some r ∧ step r a = some t := by
  rw [exec_append, Option.bind_eq_some_iff]
  simp only [exec_cons_eq_some, exec_nil, Option.some_inj, exists_eq_right]

/-- A machine whose steps are all enabled runs every schedule. -/
theorem exists_exec_eq_some (h : ∀ s a, ∃ t, step s a = some t) (s : σ) (as : List α) :
    ∃ t, exec step s as = some t := by
  induction as generalizing s with
  | nil => exact ⟨s, rfl⟩
  | cons a as ih =>
    obtain ⟨r, hr⟩ := h s a
    obtain ⟨t, ht⟩ := ih r
    exact ⟨t, exec_cons_eq_some.mpr ⟨r, hr, ht⟩⟩

/-- Two machines that agree on the labels of a schedule run it alike. -/
theorem exec_congr {step' : σ → α → Option σ} {as : List α}
    (h : ∀ a ∈ as, ∀ s, step s a = step' s a) (s : σ) : exec step s as = exec step' s as := by
  induction as generalizing s with
  | nil => rfl
  | cons a as ih =>
    rw [exec_cons, exec_cons, h a List.mem_cons_self s]
    exact Option.bind_congr fun t _ ↦ ih (fun b hb ↦ h b (List.mem_cons_of_mem a hb)) t

/-! ## From a step to a run -/

/-- **The run lemma.**  What every step keeps, every run keeps. -/
theorem inv_of_exec {I : σ → Prop} (hstep : ∀ s a t, I s → step s a = some t → I t)
    {s t : σ} {as : List α} (hs : I s) (h : exec step s as = some t) : I t := by
  induction as generalizing s with
  | nil => rw [exec_nil, Option.some_inj] at h; exact h ▸ hs
  | cons a as ih =>
    obtain ⟨r, hr, h⟩ := exec_cons_eq_some.mp h
    exact ih (hstep s a r hs hr) h

/-- **The run lemma with the history.**  A property of the schedule so far and the state it led to
holds of every run when it holds at the start and every step carries it on. -/
theorem history_of_exec {I : List α → σ → Prop} {s₀ : σ} (h₀ : I [] s₀)
    (hstep : ∀ as s a t, I as s → step s a = some t → I (as ++ [a]) t)
    {t : σ} {as : List α} (h : exec step s₀ as = some t) : I as t := by
  induction as using List.reverseRecOn generalizing t with
  | nil => rw [exec_nil, Option.some_inj] at h; exact h ▸ h₀
  | append_singleton as a ih =>
    obtain ⟨r, hr, h⟩ := exec_concat_eq_some.mp h
    exact hstep as r a t (ih hr) h

/-! ## Runs all of whose steps meet a condition -/

/-- Every step of the schedule is taken in a state in which `G` allows it. -/
def Guarded (step : σ → α → Option σ) (G : σ → α → Prop) : σ → List α → Prop
  | _, [] => True
  | s, a :: as => G s a ∧ ∀ t, step s a = some t → Guarded step G t as

/-- **The run lemma under a condition.**  What every allowed step keeps, every run of allowed
steps keeps. -/
theorem inv_of_guarded {G : σ → α → Prop} {I : σ → Prop}
    (hstep : ∀ s a t, I s → G s a → step s a = some t → I t)
    {s t : σ} {as : List α} (hs : I s) (hG : Guarded step G s as)
    (h : exec step s as = some t) : I t := by
  induction as generalizing s with
  | nil => rw [exec_nil, Option.some_inj] at h; exact h ▸ hs
  | cons a as ih =>
    obtain ⟨r, hr, h⟩ := exec_cons_eq_some.mp h
    exact ih (hstep s a r hs hG.1 hr) (hG.2 r hr) h

/-- The step is allowed, and the rest is from where it leads. -/
theorem Guarded.cons {G : σ → α → Prop} {s t : σ} {a : α} {as : List α} (hs : step s a = some t)
    (hg : G s a) (h : Guarded step G t as) : Guarded step G s (a :: as) :=
  ⟨hg, fun _ hr ↦ Option.some.inj (hs.symm.trans hr) ▸ h⟩

/-- Steps on which there is no condition meet it. -/
theorem guarded_of_forall_mem {G : σ → α → Prop} {as : List α} (hG : ∀ a ∈ as, ∀ s, G s a) (s : σ) :
    Guarded step G s as := by
  induction as generalizing s with
  | nil => trivial
  | cons a as ih =>
    exact ⟨hG a List.mem_cons_self s, fun t _ ↦ ih (fun b hb ↦ hG b (List.mem_cons_of_mem a hb)) t⟩

/-- A condition on the labels alone is one on the labels of the schedule. -/
theorem guarded_iff_forall_mem {H : α → Prop} {s t : σ} {as : List α}
    (hrun : exec step s as = some t) : Guarded step (fun _ a ↦ H a) s as ↔ ∀ a ∈ as, H a := by
  refine ⟨fun hG ↦ ?_, fun hH ↦ guarded_of_forall_mem (fun a ha _ ↦ hH a ha) s⟩
  induction as generalizing s with
  | nil => simp
  | cons a as ih =>
    obtain ⟨r, hr, hrun⟩ := exec_cons_eq_some.mp hrun
    exact List.forall_mem_cons.mpr ⟨hG.1, ih hrun (hG.2 r hr)⟩

/-- Two conditions. -/
theorem Guarded.and {G N : σ → α → Prop} {s : σ} {as : List α} (hG : Guarded step G s as)
    (hN : Guarded step N s as) : Guarded step (fun s a ↦ G s a ∧ N s a) s as := by
  induction as generalizing s with
  | nil => trivial
  | cons a as ih => exact ⟨⟨hG.1, hN.1⟩, fun t ht ↦ ih (hG.2 t ht) (hN.2 t ht)⟩

theorem guarded_append {G : σ → α → Prop} {s : σ} {as bs : List α} :
    Guarded step G s (as ++ bs) ↔
      Guarded step G s as ∧ ∀ t, exec step s as = some t → Guarded step G t bs := by
  induction as generalizing s with
  | nil => simp [Guarded]
  | cons a as ih =>
    simp only [List.cons_append, Guarded, ih, exec_cons_eq_some]
    constructor
    · rintro ⟨h, hr⟩
      exact ⟨⟨h, fun r hs ↦ (hr r hs).1⟩, fun t ⟨r, hs, ht⟩ ↦ (hr r hs).2 t ht⟩
    · rintro ⟨⟨h, hr⟩, ht⟩
      exact ⟨h, fun r hs ↦ ⟨hr r hs, fun t hrt ↦ ht t ⟨r, hs, hrt⟩⟩⟩

/-- The condition on each step of a schedule, one at a time. -/
theorem guarded_iff {G : σ → α → Prop} {s : σ} {as : List α} :
    Guarded step G s as ↔
      ∀ pre a post t, as = pre ++ a :: post → exec step s pre = some t → G t a := by
  induction as generalizing s with
  | nil => exact iff_of_true trivial fun pre a post t h ↦ by simp at h
  | cons b as ih =>
    constructor
    · rintro ⟨hb, hr⟩ pre a post t h ht
      cases pre with
      | nil =>
        obtain ⟨rfl, -⟩ := List.cons.inj h
        cases ht
        exact hb
      | cons c pre =>
        obtain ⟨rfl, rfl⟩ := List.cons.inj h
        obtain ⟨r, hs, ht⟩ := exec_cons_eq_some.mp ht
        exact ih.mp (hr r hs) pre a post t rfl ht
    · intro h
      refine ⟨h [] b as s rfl rfl, fun r hs ↦ ih.mpr fun pre a post t hp ht ↦ ?_⟩
      exact h (b :: pre) a post t (by rw [hp, List.cons_append])
        (exec_cons_eq_some.mpr ⟨r, hs, ht⟩)

/-- **A law of single steps**, along a run: where `G` says which steps obey it, all the steps of a
run do if and only if `G` allows them. -/
theorem forall_steps_iff_guarded {G : σ → α → Prop} {P : σ → α → σ → Prop}
    (hstep : ∀ s a t, step s a = some t → (P s a t ↔ G s a)) {s t : σ} {as : List α}
    (hrun : exec step s as = some t) :
    (∀ pre a post r r', as = pre ++ a :: post → exec step s pre = some r → step r a = some r' →
      P r a r') ↔ Guarded step G s as := by
  rw [guarded_iff]
  constructor
  · intro hall pre a post r has hr
    rw [has, exec_append, hr, Option.bind_some, exec_cons_eq_some] at hrun
    obtain ⟨r', hr', -⟩ := hrun
    exact (hstep r a r' hr').mp (hall pre a post r r' has hr hr')
  · intro hG pre a post r r' has hr hr'
    exact (hstep r a r' hr').mpr (hG pre a post r has hr)

/-- **Steps that are allowed** one after the other: where the invariant `I` says that the next step
is, and an allowed step keeps the invariant, in a run whose steps meet a condition `N`. -/
theorem guarded_of_inv {N G : σ → α → Prop} {I : σ → Prop}
    (hkeep : ∀ s a t, I s → N s a → G s a → step s a = some t → I t) {s t : σ} {as : List α}
    (hallowed : ∀ pre a post r r', as = pre ++ a :: post → exec step s pre = some r → I r →
      N r a → step r a = some r' → G r a)
    (hs : I s) (hN : Guarded step N s as) (hrun : exec step s as = some t) :
    Guarded step G s as := by
  induction as generalizing s with
  | nil => trivial
  | cons a as ih =>
    obtain ⟨r, hr, hrest⟩ := exec_cons_eq_some.mp hrun
    have hG : G s a := hallowed [] a as s r rfl rfl hs hN.1 hr
    refine Guarded.cons hr hG (ih (fun pre b post q q' h hq ↦ ?_) (hkeep s a r hs hN.1 hG hr)
      (hN.2 r hr) hrest)
    exact hallowed (a :: pre) b post q q' (by rw [h, List.cons_append])
      (exec_cons_eq_some.mpr ⟨r, hr, hq⟩)

/-- **The run lemma with the exact condition**, for an invariant together with a law of single
steps, in a run whose steps meet a condition `N`: where `G` says which of those steps keep the one
and obey the other. -/
theorem inv_and_law_iff_guarded {N G : σ → α → Prop} {I : σ → Prop} {L : σ → α → Prop}
    (hstep : ∀ s a t, I s → N s a → step s a = some t → (I t ∧ L s a ↔ G s a)) {s t : σ}
    {as : List α} (hs : I s) (hN : Guarded step N s as) (hrun : exec step s as = some t) :
    ((∀ pre post r, as = pre ++ post → exec step s pre = some r → I r) ∧
      ∀ pre a post r, as = pre ++ a :: post → exec step s pre = some r → L r a) ↔
      Guarded step G s as := by
  have hkeep : ∀ s a t, I s → N s a → G s a → step s a = some t → I t :=
    fun s a t h hn hg ht ↦ ((hstep s a t h hn ht).mpr hg).1
  constructor
  · rintro ⟨hI, hL⟩
    refine guarded_of_inv hkeep (fun pre a post r r' has hr h hn hr' ↦ ?_) hs hN hrun
    have hI' : I r' := hI (pre ++ [a]) post r' (by simp [has])
      (exec_concat_eq_some.mpr ⟨r, hr, hr'⟩)
    exact (hstep r a r' h hn hr').mp ⟨hI', hL pre a post r has hr⟩
  · intro hG
    have hI : ∀ pre post r, as = pre ++ post → exec step s pre = some r → I r := by
      rintro pre post r rfl hr
      exact inv_of_guarded (fun s a t h hng ↦ hkeep s a t h hng.1 hng.2) hs
        (guarded_append.mp (hN.and hG)).1 hr
    refine ⟨hI, fun pre a post r has hr ↦ ?_⟩
    rw [has, exec_append, hr, Option.bind_some, exec_cons_eq_some] at hrun
    obtain ⟨r', hr', -⟩ := hrun
    exact ((hstep r a r' (hI pre (a :: post) r has hr) (guarded_iff.mp hN pre a post r has hr)
      hr').mpr (guarded_iff.mp hG pre a post r has hr)).2

/-- **The run lemma with the exact condition**, in a run whose steps meet a condition `N`: where
such a step keeps an invariant if and only if `G` allows it, the invariant holds all along the run
if and only if every step is allowed. -/
theorem inv_iff_guarded_of_guarded {N G : σ → α → Prop} {I : σ → Prop}
    (hstep : ∀ s a t, I s → N s a → step s a = some t → (I t ↔ G s a)) {s t : σ} {as : List α}
    (hs : I s) (hN : Guarded step N s as) (hrun : exec step s as = some t) :
    (∀ pre post r, as = pre ++ post → exec step s pre = some r → I r) ↔
      Guarded step G s as := by
  have hlaw : ∀ s a t, I s → N s a → step s a = some t → (I t ∧ True ↔ G s a) := by
    intro s a t hs hn ht
    rw [and_true, hstep s a t hs hn ht]
  rw [← inv_and_law_iff_guarded hlaw hs hN hrun]
  exact ⟨fun h ↦ ⟨h, fun _ _ _ _ _ _ ↦ trivial⟩, fun h ↦ h.1⟩

/-- **The run lemma with the exact condition.**  Where a step keeps an invariant if and only if `G`
allows it, the invariant holds all along a run if and only if every step is allowed. -/
theorem inv_iff_guarded {G : σ → α → Prop} {I : σ → Prop}
    (hstep : ∀ s a t, I s → step s a = some t → (I t ↔ G s a)) {s t : σ} {as : List α} (hs : I s)
    (hrun : exec step s as = some t) :
    (∀ pre post r, as = pre ++ post → exec step s pre = some r → I r) ↔
      Guarded step G s as :=
  inv_iff_guarded_of_guarded (fun s a t hs _ ht ↦ hstep s a t hs ht) hs
    (guarded_of_forall_mem (fun _ _ _ ↦ trivial) s : Guarded step (fun _ _ ↦ True) s as) hrun

/-- **The run lemma with the exact condition**, for a property that rests on an invariant `J` of
all runs. -/
theorem forall_iff_guarded {G : σ → α → Prop} {J P : σ → Prop}
    (hJ : ∀ s a t, J s → step s a = some t → J t)
    (hstep : ∀ s a t, J s → P s → step s a = some t → (P t ↔ G s a)) {s t : σ} {as : List α}
    (hJs : J s) (hPs : P s) (hrun : exec step s as = some t) :
    (∀ pre post r, as = pre ++ post → exec step s pre = some r → P r) ↔ Guarded step G s as := by
  have hinv : ∀ s a t, J s ∧ P s → step s a = some t → (J t ∧ P t ↔ G s a) := by
    intro s a t hs ht
    rw [and_iff_right (hJ s a t hs.1 ht), hstep s a t hs.1 hs.2 ht]
  rw [← inv_iff_guarded hinv ⟨hJs, hPs⟩ hrun]
  constructor
  · exact fun h pre post r has hr ↦ ⟨inv_of_exec hJ hJs hr, h pre post r has hr⟩
  · exact fun h pre post r has hr ↦ (h pre post r has hr).2

/-- **The run lemma with the exact condition**, for a property of the schedule so far and the state
it led to, which rests on an invariant `I` that only allowed steps keep, and which tells the first
step that is not allowed, in a run whose steps meet a condition `N`. -/
theorem forall_history_iff_guarded {N G : σ → α → Prop} {I : σ → Prop} {P : List α → σ → Prop}
    {s t : σ} {as : List α} (hkeep : ∀ s a t, I s → N s a → G s a → step s a = some t → I t)
    (hP : ∀ pre r, exec step s pre = some r → I r → P pre r)
    (hbad : ∀ pre r a r', exec step s pre = some r → I r → step r a = some r' →
      P (pre ++ [a]) r' → G r a)
    (hs : I s) (hN : Guarded step N s as) (hrun : exec step s as = some t) :
    (∀ pre post r, as = pre ++ post → exec step s pre = some r → P pre r) ↔
      Guarded step G s as := by
  constructor
  · intro hall
    refine guarded_of_inv hkeep (fun pre a post r r' has hr h _ hr' ↦ ?_) hs hN hrun
    exact hbad pre r a r' hr h hr' (hall (pre ++ [a]) post r' (by simp [has])
      (exec_concat_eq_some.mpr ⟨r, hr, hr'⟩))
  · rintro hG pre post r rfl hr
    exact hP pre r hr (inv_of_guarded (fun s a t h hng ↦ hkeep s a t h hng.1 hng.2) hs
      (guarded_append.mp (hN.and hG)).1 hr)

/-- The same for a property of the state.  The labels of the schedule may be assumed to meet a
condition `H` of their own. -/
theorem forall_iff_guarded_of_inv {G : σ → α → Prop} {H : α → Prop} {I P : σ → Prop}
    (hkeep : ∀ s a t, I s → H a → G s a → step s a = some t → I t) (hP : ∀ s, I s → P s)
    (hbad : ∀ s a t, I s → step s a = some t → P t → G s a) {s t : σ} {as : List α} (hs : I s)
    (hH : ∀ a ∈ as, H a) (hrun : exec step s as = some t) :
    (∀ pre post r, as = pre ++ post → exec step s pre = some r → P r) ↔ Guarded step G s as :=
  forall_history_iff_guarded (P := fun _ r ↦ P r) hkeep (fun _ r _ h ↦ hP r h)
    (fun _ r a r' _ h ht ↦ hbad r a r' h ht) hs (guarded_of_forall_mem (fun a ha _ ↦ hH a ha) s)
    hrun

/-! ## The order of two steps -/

/-- Some occurrence of `y` in `as` has an `x` before it. -/
def Precedes (x y : α) (as : List α) : Prop := ∃ pre post, as = pre ++ y :: post ∧ x ∈ pre

theorem precedes_concat {x y a : α} {as : List α} :
    Precedes x y (as ++ [a]) ↔ Precedes x y as ∨ a = y ∧ x ∈ as := by
  constructor
  · rintro ⟨pre, post, h, hx⟩
    rcases List.eq_nil_or_concat post with rfl | ⟨post, b, rfl⟩
    · obtain ⟨rfl, hy⟩ := List.append_inj' h rfl
      exact Or.inr ⟨by simpa using hy, hx⟩
    · have h' : as ++ [a] = (pre ++ y :: post) ++ [b] := by simpa using h
      obtain ⟨rfl, -⟩ := List.append_inj' h' rfl
      exact Or.inl ⟨pre, post, rfl, hx⟩
  · rintro (⟨pre, post, rfl, hx⟩ | ⟨rfl, hx⟩)
    · exact ⟨pre, post ++ [a], by simp, hx⟩
    · exact ⟨as, [], rfl, hx⟩

/-- Before the only occurrence of `y`. -/
theorem precedes_append_cons {x y : α} {l r : List α} (hl : y ∉ l) (hr : y ∉ r) :
    Precedes x y (l ++ y :: r) ↔ x ∈ l := by
  constructor
  · rintro ⟨pre, post, h, hx⟩
    rw [((List.append_cons_inj_of_notMem hl hr).mp h).1]
    exact hx
  · exact fun hx ↦ ⟨l, r, rfl, hx⟩

theorem Precedes.mem_right {x y : α} {as : List α} (h : Precedes x y as) : y ∈ as := by
  obtain ⟨pre, post, rfl, -⟩ := h
  simp

end Machine
