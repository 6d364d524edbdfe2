import Mathlib.Data.List.Infix
import Mathlib.Logic.Basic

/-!
# Programs that say things and are answered

A program with a state of its own that talks to an environment.  What it says goes into a log, and
where it needs something of the environment it waits for an answer, which goes into the log as well.
A run is given the answers beforehand, as a script: for each program every script is a run, of which
the program may have come to its end, or be waiting because there is no answer yet, or none that is
one to what it has asked.  What holds of every script holds therefore of every moment at which the
program waits, whatever the environment does.

* `Prog` is such a program, with the primitives `say`, `ask`, `read` and `change`, and `loop` for one
  that goes on until it has a result.
* `Prog.wp ok p Q R w` is the weakest precondition: from the world `w`, and as long as the answers are
  `ok`, a run of `p` ends with `Q`, and where it waits there is `R`.  Behind each primitive stands a
  rule that is an equation, so `simp` goes through a program that has no calls in it; `Prog.wp_bind`
  is the rule for a call, and `Prog.wp_loop` the one for a loop.
* `Prog.Keeps f p` says that the program leaves `f` as it is, all along; `Prog.wp_keeps` is the rule
  for a call of such a program.
* `Prog.loop_eq` says that a loop is its first round and then the loop again, if no round goes on
  without having heard something.
-/

set_option autoImplicit false

universe u v

namespace Dialog

/-! ## What is said and heard -/

section World

variable (σ ε ι : Type u)

/-- What stands in the log. -/
inductive Entry where
  | said (e : ε)
  | heard (i : ι)
  deriving DecidableEq

/-- The state of a program and the log, of which the newest entry comes first. -/
structure World where
  state : σ
  log : List (Entry ε ι)

end World

variable {σ ε ι α β γ : Type u}

namespace World

/-- Something more is said. -/
def say (w : World σ ε ι) (e : ε) : World σ ε ι := { w with log := .said e :: w.log }

/-- An answer has come. -/
def hear (w : World σ ε ι) (i : ι) (s : σ) : World σ ε ι := ⟨s, .heard i :: w.log⟩

/-- The state becomes another. -/
def change (w : World σ ε ι) (f : σ → σ) : World σ ε ι := { w with state := f w.state }

variable {w : World σ ε ι} {e : ε} {i : ι} {s : σ} {f : σ → σ}

@[simp] theorem state_say : (w.say e).state = w.state := rfl
@[simp] theorem log_say : (w.say e).log = .said e :: w.log := rfl
@[simp] theorem state_hear : (w.hear i s).state = s := rfl
@[simp] theorem log_hear : (w.hear i s).log = .heard i :: w.log := rfl
@[simp] theorem state_change : (w.change f).state = f w.state := rfl
@[simp] theorem log_change : (w.change f).log = w.log := rfl

end World

/-- How far a run has come. -/
inductive Outcome (σ ε ι α : Type u) where
  /-- The program has ended, and these answers are left. -/
  | done (a : α) (w : World σ ε ι) (rest : List ι)
  /-- The program waits for an answer. -/
  | waiting (w : World σ ε ι)

/-- What the world is like where a run has come. -/
def Outcome.world : Outcome σ ε ι α → World σ ε ι
  | .done _ w _ => w
  | .waiting w => w

/-- The program ends with `Q`, or waits with `R`. -/
def Outcome.Meets (Q : α → World σ ε ι → Prop) (R : World σ ε ι → Prop) : Outcome σ ε ι α → Prop
  | .done a w _ => Q a w
  | .waiting w => R w

/-! ## Programs -/

/-- A program that ends with an `α`. -/
@[ext] structure Prog (σ ε ι α : Type u) where
  run : World σ ε ι → List ι → Outcome σ ε ι α
  /-- The answers are taken in their order. -/
  suffix : ∀ {w is a w' rest}, run w is = .done a w' rest → rest <:+ is

namespace Prog

/-- The program that does nothing. -/
protected def pure (a : α) : Prog σ ε ι α where
  run w is := .done a w is
  suffix h := by cases h; exact List.suffix_rfl

/-- One program after another. -/
protected def bind (p : Prog σ ε ι α) (f : α → Prog σ ε ι β) : Prog σ ε ι β where
  run w is := match p.run w is with
    | .done a w' rest => (f a).run w' rest
    | .waiting w' => .waiting w'
  suffix {w is b w' rest} h := by
    cases hp : p.run w is with
    | done a v mid =>
      rw [hp] at h
      exact ((f a).suffix h).trans (p.suffix hp)
    | waiting v => rw [hp] at h; cases h

instance : Monad (Prog σ ε ι) where
  pure := Prog.pure
  bind := Prog.bind

/-- The state. -/
def read : Prog σ ε ι σ where
  run w is := .done w.state w is
  suffix h := by cases h; exact List.suffix_rfl

/-- The state becomes another. -/
def change (f : σ → σ) : Prog σ ε ι PUnit where
  run w is := .done ⟨⟩ (w.change f) is
  suffix h := by cases h; exact List.suffix_rfl

/-- Something is said. -/
def say (e : ε) : Prog σ ε ι PUnit where
  run w is := .done ⟨⟩ (w.say e) is
  suffix h := by cases h; exact List.suffix_rfl

/-- An answer is awaited: `f` says which are answers, what they come to, and what they make of the
state. -/
def ask (f : σ → ι → Option (α × σ)) : Prog σ ε ι α where
  run w is := match is with
    | [] => .waiting w
    | i :: is => match f w.state i with
      | some (a, s) => .done a (w.hear i s) is
      | none => .waiting w
  suffix {w is a w' rest} h := by
    cases is with
    | nil => cases h
    | cons i is =>
      dsimp only at h
      split at h
      · cases h; exact List.suffix_cons ..
      · cases h

/-- At most `n` rounds, each of which comes to what the next one begins with, or to the result. -/
def rounds (body : β → Prog σ ε ι (β ⊕ α)) : ℕ → β → Prog σ ε ι α
  | 0, _ => ⟨fun w _ ↦ .waiting w, fun h ↦ by cases h⟩
  | n + 1, b => do
    match ← body b with
    | .inl b => rounds body n b
    | .inr a => return a

/-- Rounds until there is a result.  A round that goes on has heard something, so there are no more
of them than there are answers, and one. -/
def loop (body : β → Prog σ ε ι (β ⊕ α)) (b : β) : Prog σ ε ι α where
  run w is := (rounds body (is.length + 1) b).run w is
  suffix {_ is _ _ _} h := (rounds body (is.length + 1) b).suffix h

/-- A program is run for each entry of a list. -/
def each (f : γ → Prog σ ε ι PUnit) : List γ → Prog σ ε ι PUnit
  | [] => pure ⟨⟩
  | c :: l => do
    f c
    each f l

/-! ## The laws of a monad -/

section Laws

variable {w : World σ ε ι} {is : List ι} {p : Prog σ ε ι α}

theorem run_pure (a : α) : (pure a : Prog σ ε ι α).run w is = .done a w is := rfl

theorem run_ask_cons (f : σ → ι → Option (α × σ)) (i : ι) : (ask f).run w (i :: is) =
    match f w.state i with
    | some (a, s) => .done a (w.hear i s) is
    | none => .waiting w := rfl

theorem run_bind (f : α → Prog σ ε ι β) : (p >>= f).run w is =
    match p.run w is with
    | .done a w' rest => (f a).run w' rest
    | .waiting w' => .waiting w' := rfl

instance : LawfulMonad (Prog σ ε ι) := by
  refine LawfulMonad.mk' _ (fun p ↦ ?_) (fun _ _ ↦ rfl) (fun p f g ↦ ?_)
  · ext w is : 3
    change (p >>= fun a ↦ pure a).run w is = _
    rw [run_bind]
    cases p.run w is <;> rfl
  · ext w is : 3
    simp only [run_bind]
    cases p.run w is <;> rfl

end Laws

/-! ## Preconditions -/

section Wp

variable {ok : ι → Prop} {p : Prog σ ε ι α} {Q Q' : α → World σ ε ι → Prop}
  {R R' : World σ ε ι → Prop} {S : β → World σ ε ι → Prop} {w : World σ ε ι}

/-- From `w`, and with answers that are `ok`, the program ends with `Q`, and where it waits there is
`R`. -/
def wp (ok : ι → Prop) (p : Prog σ ε ι α) (Q : α → World σ ε ι → Prop) (R : World σ ε ι → Prop)
    (w : World σ ε ι) : Prop :=
  ∀ is, (∀ i ∈ is, ok i) → (p.run w is).Meets Q R

/-- **The rule of consequence.** -/
theorem wp_mono (h : wp ok p Q R w) (hQ : ∀ a v, Q a v → Q' a v) (hR : ∀ v, R v → R' v) :
    wp ok p Q' R' w := by
  intro is his
  have hrun := h is his
  cases hp : p.run w is with
  | done a v rest => rw [hp] at hrun; exact hQ a v hrun
  | waiting v => rw [hp] at hrun; exact hR v hrun

/-- **The rule for a call**, after which the program goes on. -/
theorem wp_bind {f : α → Prog σ ε ι β} (h : wp ok p (fun a ↦ wp ok (f a) S R) R w) :
    wp ok (p >>= f) S R w := by
  intro is his
  have hrun := h is his
  rw [run_bind]
  cases hp : p.run w is with
  | done a v rest =>
    rw [hp] at hrun
    exact hrun rest fun i hi ↦ his i ((p.suffix hp).subset hi)
  | waiting v => rw [hp] at hrun; exact hrun

/-- The rule for a call of which it is known what it does. -/
theorem wp_call {f : α → Prog σ ε ι β} (h : wp ok p Q R w)
    (hf : ∀ a v, Q a v → wp ok (f a) S R v) : wp ok (p >>= f) S R w :=
  wp_bind (wp_mono h hf fun _ ↦ id)

/-- Two things that are known of a program. -/
theorem wp_and (h : wp ok p Q R w) (h' : wp ok p Q' R' w) :
    wp ok p (fun a v ↦ Q a v ∧ Q' a v) (fun v ↦ R v ∧ R' v) w := by
  intro is his
  have hrun := h is his
  have hrun' := h' is his
  cases hp : p.run w is with
  | done a v rest => rw [hp] at hrun hrun'; exact ⟨hrun, hrun'⟩
  | waiting v => rw [hp] at hrun hrun'; exact ⟨hrun, hrun'⟩

@[simp] theorem wp_pure (a : α) : wp ok (pure a) Q R w ↔ Q a w :=
  ⟨fun h ↦ h [] (by simp), fun h _ _ ↦ h⟩

@[simp] theorem wp_read_bind {f : σ → Prog σ ε ι β} :
    wp ok (read >>= f) S R w ↔ wp ok (f w.state) S R w := Iff.rfl

@[simp] theorem wp_change_bind {g : σ → σ} {f : PUnit → Prog σ ε ι β} :
    wp ok (change g >>= f) S R w ↔ wp ok (f ⟨⟩) S R (w.change g) := Iff.rfl

@[simp] theorem wp_say_bind {e : ε} {f : PUnit → Prog σ ε ι β} :
    wp ok (say e >>= f) S R w ↔ wp ok (f ⟨⟩) S R (w.say e) := Iff.rfl

@[simp] theorem wp_change {g : σ → σ} {Q : PUnit → World σ ε ι → Prop} :
    wp ok (change g) Q R w ↔ Q ⟨⟩ (w.change g) :=
  ⟨fun h ↦ h [] (by simp), fun h _ _ ↦ h⟩

@[simp] theorem wp_say {e : ε} {Q : PUnit → World σ ε ι → Prop} :
    wp ok (say e) Q R w ↔ Q ⟨⟩ (w.say e) :=
  ⟨fun h ↦ h [] (by simp), fun h _ _ ↦ h⟩

/-- The rule for a question. -/
@[simp] theorem wp_ask {f : σ → ι → Option (α × σ)} :
    wp ok (ask f) Q R w ↔
      R w ∧ ∀ i a s, ok i → f w.state i = some (a, s) → Q a (w.hear i s) := by
  constructor
  · intro h
    refine ⟨h [] (by simp), fun i a s hi hf ↦ ?_⟩
    have hrun := h [i] (by simpa using hi)
    rw [run_ask_cons, hf] at hrun
    exact hrun
  · rintro ⟨hR, hQ⟩ is his
    cases is with
    | nil => exact hR
    | cons i is =>
      rw [run_ask_cons]
      cases hf : f w.state i with
      | none => exact hR
      | some r => exact hQ i r.1 r.2 (his i List.mem_cons_self) hf

theorem wp_ask_bind {f : σ → ι → Option (α × σ)} {k : α → Prog σ ε ι β} :
    wp ok (ask f >>= k) S R w ↔
      R w ∧ ∀ i a s, ok i → f w.state i = some (a, s) → wp ok (k a) S R (w.hear i s) := by
  constructor
  · intro h
    refine ⟨h [] (by simp), fun i a s hi hf is his ↦ ?_⟩
    have hrun := h (i :: is) (by simpa using ⟨hi, his⟩)
    rw [run_bind, run_ask_cons, hf] at hrun
    exact hrun
  · rintro ⟨hR, hk⟩
    exact wp_bind (wp_ask.mpr ⟨hR, hk⟩)

@[simp] theorem wp_ite {c : Prop} [Decidable c] {q : Prog σ ε ι α} :
    wp ok (if c then p else q) Q R w ↔ if c then wp ok p Q R w else wp ok q Q R w := by
  split <;> rfl

/-- **The rule for a loop**: what each round keeps. -/
theorem wp_loop {body : β → Prog σ ε ι (β ⊕ α)} {I : β → World σ ε ι → Prop}
    (hbody : ∀ b v, I b v →
      wp ok (body b) (fun r v' ↦ r.elim (fun b' ↦ I b' v') fun a ↦ Q a v') R v)
    (hR : ∀ b v, I b v → R v) {b : β} (h : I b w) : wp ok (loop body b) Q R w := by
  intro is his
  have hrounds : ∀ n b v, I b v → wp ok (rounds body n b) Q R v := by
    intro n
    induction n with
    | zero => exact fun b v hv _ _ ↦ hR b v hv
    | succ n ih =>
      intro b v hv
      refine wp_call (hbody b v hv) fun r v' hr ↦ ?_
      cases r with
      | inl b' => exact ih b' v' hr
      | inr a => exact (wp_pure a).mpr hr
  exact hrounds (is.length + 1) b w h is his

/-- The rule for a program that is run for each entry of a list. -/
theorem wp_each {f : γ → Prog σ ε ι PUnit} {I : List γ → World σ ε ι → Prop}
    (hf : ∀ pre c v, I pre v → wp ok (f c) (fun _ v' ↦ I (pre ++ [c]) v') R v)
    (pre : List γ) {l : List γ} (h : I pre w) :
    wp ok (each f l) (fun _ v ↦ I (pre ++ l) v) R w := by
  induction l generalizing w pre with
  | nil => simpa [each] using h
  | cons c l ih =>
    refine wp_call (hf pre c w h) fun _ v hv ↦ ?_
    simpa using ih _ hv

end Wp

/-! ## What a program leaves alone -/

section Keeps

variable {θ : Type v} {f : World σ ε ι → θ} {p : Prog σ ε ι α} {w : World σ ε ι}

/-- The program leaves `f` as it is, all along. -/
def Keeps (f : World σ ε ι → θ) (p : Prog σ ε ι α) : Prop :=
  ∀ ok w, p.wp ok (fun _ v ↦ f v = f w) (fun v ↦ f v = f w) w

/-- **The rule for a call** of a program that leaves `f` as it is. -/
theorem wp_keeps {ok : ι → Prop} {R : World σ ε ι → Prop} {S : β → World σ ε ι → Prop}
    {k : α → Prog σ ε ι β} (h : Keeps f p) (hR : ∀ v, f v = f w → R v)
    (hk : ∀ a v, f v = f w → (k a).wp ok S R v) : (p >>= k).wp ok S R w :=
  wp_bind (wp_mono (h ok w) hk hR)

theorem keeps_pure (a : α) : Keeps f (pure a) := fun _ _ ↦ (wp_pure a).mpr rfl

theorem keeps_say {e : ε} (h : ∀ w, f (w.say e) = f w) : Keeps f (say e) :=
  fun _ w ↦ wp_say.mpr (h w)

theorem keeps_change {g : σ → σ} (h : ∀ w, f (w.change g) = f w) : Keeps f (change g) :=
  fun _ w ↦ wp_change.mpr (h w)

theorem keeps_ask {g : σ → ι → Option (α × σ)}
    (h : ∀ w i a s, g w.state i = some (a, s) → f (w.hear i s) = f w) : Keeps f (ask g) :=
  fun _ w ↦ wp_ask.mpr ⟨rfl, fun i a s _ hi ↦ h w i a s hi⟩

theorem keeps_bind {k : α → Prog σ ε ι β} (hp : Keeps f p) (hk : ∀ a, Keeps f (k a)) :
    Keeps f (p >>= k) := fun ok _ ↦
  wp_keeps hp (fun _ ↦ id) fun a v hv ↦
    wp_mono (hk a ok v) (fun _ _ h ↦ h.trans hv) fun _ h ↦ h.trans hv

theorem keeps_read_bind {k : σ → Prog σ ε ι β} (hk : ∀ s, Keeps f (k s)) :
    Keeps f (read >>= k) := fun ok w ↦ wp_read_bind.mpr (hk w.state ok w)

theorem keeps_ite {c : Prop} [Decidable c] {q : Prog σ ε ι α} (hp : Keeps f p) (hq : Keeps f q) :
    Keeps f (if c then p else q) := by
  split
  · exact hp
  · exact hq

theorem keeps_loop {body : β → Prog σ ε ι (β ⊕ α)} (h : ∀ b, Keeps f (body b)) (b : β) :
    Keeps f (loop body b) := fun ok w ↦
  wp_loop (I := fun _ v ↦ f v = f w)
    (fun b v hv ↦ wp_mono (h b ok v) (fun r _ hr ↦ by cases r <;> exact hr.trans hv)
      fun _ hr ↦ hr.trans hv) (fun _ _ ↦ id) rfl

theorem keeps_each {k : γ → Prog σ ε ι PUnit} {l : List γ} (h : ∀ c ∈ l, Keeps f (k c)) :
    Keeps f (each k l) := by
  induction l with
  | nil => exact keeps_pure _
  | cons c l ih =>
    exact keeps_bind (h c List.mem_cons_self) fun _ ↦
      ih fun c hc ↦ h c (List.mem_cons_of_mem _ hc)

end Keeps

/-! ## Rounds and answers -/

section Loop

variable {body : β → Prog σ ε ι (β ⊕ α)} {w : World σ ε ι} {is : List ι}

/-- No round goes on without having heard something. -/
def Attentive (body : β → Prog σ ε ι (β ⊕ α)) : Prop :=
  ∀ b w is b' w' rest, (body b).run w is = .done (.inl b') w' rest → rest.length < is.length

/-- More rounds than there are answers change nothing. -/
theorem rounds_eq_rounds (h : Attentive body) {m n : ℕ} (hm : is.length < m) (hn : is.length < n)
    (b : β) : (rounds body m b).run w is = (rounds body n b).run w is := by
  induction m generalizing n b w is with
  | zero => omega
  | succ m ih =>
    obtain ⟨n, rfl⟩ : ∃ k, n = k + 1 := ⟨n - 1, by omega⟩
    simp only [rounds, run_bind]
    cases hb : (body b).run w is with
    | waiting w' => rfl
    | done r w' rest =>
      cases r with
      | inr a => rfl
      | inl b' =>
        have := h b w is b' w' rest hb
        exact ih (by omega) (by omega) b'

/-- **A loop is its first round, and then the loop again.** -/
theorem loop_eq (h : Attentive body) (b : β) :
    loop body b = (do
      match ← body b with
      | .inl b => loop body b
      | .inr a => return a) := by
  ext w is : 3
  change (rounds body (is.length + 1) b).run w is = _
  simp only [rounds, run_bind]
  cases hb : (body b).run w is with
  | waiting w' => rfl
  | done r w' rest =>
    cases r with
    | inr a => rfl
    | inl b' =>
      have := h b w is b' w' rest hb
      exact rounds_eq_rounds h this (Nat.lt_succ_self _) b'

end Loop

end Prog

end Dialog
