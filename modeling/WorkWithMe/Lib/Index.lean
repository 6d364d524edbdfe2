import Mathlib.Logic.Function.Basic

/-!
# Indexes

A store has a key at some of its places, `key : L → Option K`, and an index says of a key at which
place it is, `index : K → Option L`.  Two places may have one key, and then the index says one of
the two.

* `Index.Sound` says that an index has no stale entry, and `Index.Complete` that it has every key.
* `Index.scan` enters what is found at some places, in their order; `Sound.complete_scan` says that
  a scan of the whole store makes a sound index complete, whatever the order.
* `Index.agrees_put_iff` and `Index.agrees_drop_iff` say when the two go on to agree where a key
  is put at a place, and where the place of a key is emptied, both with its entry.
-/

set_option autoImplicit false

namespace Index

universe u v

variable {L : Type u} {K : Type v} {key : L → Option K} {index : K → Option L}

/-- The index has no stale entry. -/
def Sound (key : L → Option K) (index : K → Option L) : Prop :=
  ∀ k l, index k = some l → key l = some k

/-- The index has every key of the store. -/
def Complete (key : L → Option K) (index : K → Option L) : Prop :=
  ∀ l k, key l = some k → (index k).isSome

/-- **The index and the store agree.** -/
structure Agrees (key : L → Option K) (index : K → Option L) : Prop where
  /-- There is no stale entry. -/
  sound : Sound key index
  /-- There is an entry for every key. -/
  complete : Complete key index

/-- The keys of an index that agrees are those of the store. -/
theorem Agrees.isSome_iff (h : Agrees key index) (k : K) :
    (index k).isSome ↔ ∃ l, key l = some k := by
  constructor
  · intro hk
    obtain ⟨l, hl⟩ := Option.isSome_iff_exists.mp hk
    exact ⟨l, h.sound k l hl⟩
  · rintro ⟨l, hl⟩
    exact h.complete l k hl

/-- An index is told to agree by its keys and the places of its entries. -/
theorem agrees_iff : Agrees key index ↔
    (∀ k, (index k).isSome ↔ ∃ l, key l = some k) ∧ ∀ k l, index k = some l → key l = some k :=
  ⟨fun h ↦ ⟨h.isSome_iff, h.sound⟩, fun h ↦ ⟨h.2, fun l k hl ↦ (h.1 k).mpr ⟨l, hl⟩⟩⟩

section Writes

variable [DecidableEq K]

/-! ## A scan -/

/-- Enter what is found at a place. -/
def enter (key : L → Option K) (index : K → Option L) (l : L) : K → Option L :=
  (key l).elim index fun k ↦ Function.update index k (some l)

/-- Enter what is found at some places. -/
def scan (key : L → Option K) (index : K → Option L) (order : List L) : K → Option L :=
  order.foldl (enter key) index

theorem Sound.enter (h : Sound key index) (l : L) : Sound key (Index.enter key index l) := by
  intro k m hk
  rw [Index.enter] at hk
  cases hl : key l with
  | none =>
    rw [hl] at hk
    exact h k m hk
  | some j =>
    rw [hl, Option.elim_some] at hk
    by_cases hkj : k = j
    · subst hkj
      rw [Function.update_self] at hk
      obtain rfl := Option.some.inj hk
      exact hl
    · rw [Function.update_of_ne hkj] at hk
      exact h k m hk

/-- A scan makes no stale entry. -/
theorem Sound.scan (h : Sound key index) (order : List L) :
    Sound key (Index.scan key index order) := by
  induction order generalizing index with
  | nil => exact h
  | cons l order ih => exact ih (h.enter l)

/-- A scan takes no entry out. -/
theorem isSome_scan {k : K} (h : (index k).isSome) (order : List L) :
    (scan key index order k).isSome := by
  induction order generalizing index with
  | nil => exact h
  | cons l order ih =>
    refine ih ?_
    rw [enter]
    cases key l with
    | none => exact h
    | some j =>
      rw [Option.elim_some]
      by_cases hkj : k = j
      · rw [hkj, Function.update_self]
        rfl
      · rwa [Function.update_of_ne hkj]

/-- What is at a place that is scanned has an entry. -/
theorem isSome_scan_of_mem {l : L} {k : K} {order : List L} (hl : l ∈ order)
    (hk : key l = some k) : (scan key index order k).isSome := by
  induction order generalizing index with
  | nil => cases hl
  | cons m order ih =>
    rcases List.mem_cons.mp hl with rfl | hl
    · refine isSome_scan ?_ order
      rw [enter, hk, Option.elim_some, Function.update_self]
      rfl
    · exact ih hl

/-- **A scan of the whole store** makes an index without stale entries agree with it. -/
theorem Sound.agrees_scan (h : Sound key index) {order : List L}
    (horder : ∀ l, (key l).isSome → l ∈ order) : Agrees key (Index.scan key index order) :=
  ⟨h.scan order, fun l k hk ↦ isSome_scan_of_mem (horder l (by rw [hk]; rfl)) hk⟩

/-! ## Writes -/

variable [DecidableEq L] {k : K} {l : L}

/-- **A key that is put at a place and entered**: the two go on to agree if and only if the place
was not that of the entry of another key. -/
theorem agrees_put_iff (h : Agrees key index) :
    Agrees (Function.update key l (some k)) (Function.update index k (some l)) ↔
      ∀ j, index j = some l → j = k := by
  constructor
  · intro h' j hj
    by_contra hjk
    have hl := h'.sound j l (by rwa [Function.update_of_ne hjk])
    rw [Function.update_self] at hl
    exact hjk (Option.some.inj hl).symm
  · intro hplace
    constructor
    · intro j m hj
      by_cases hjk : j = k
      · subst hjk
        rw [Function.update_self] at hj
        obtain rfl := Option.some.inj hj
        exact Function.update_self ..
      · rw [Function.update_of_ne hjk] at hj
        have hm : m ≠ l := fun hm ↦ hjk (hplace j (hm ▸ hj))
        rw [Function.update_of_ne hm]
        exact h.sound j m hj
    · intro m j hm
      by_cases hjk : j = k
      · rw [hjk, Function.update_self]
        rfl
      · have hml : m ≠ l := by
          rintro rfl
          rw [Function.update_self] at hm
          exact hjk (Option.some.inj hm).symm
        rw [Function.update_of_ne hml] at hm
        rw [Function.update_of_ne hjk]
        exact h.complete m j hm

/-- **The place of an entry that is emptied, with the entry taken out**: the two go on to agree if
and only if no other place has the key. -/
theorem agrees_drop_iff (h : Agrees key index) (hk : index k = some l) :
    Agrees (Function.update key l none) (Function.update index k none) ↔
      ∀ m, key m = some k → m = l := by
  constructor
  · intro h' m hm
    by_contra hml
    have hk' := h'.complete m k (by rwa [Function.update_of_ne hml])
    rw [Function.update_self] at hk'
    cases hk'
  · intro honly
    have hl := h.sound k l hk
    constructor
    · intro j m hj
      have hjk : j ≠ k := by
        rintro rfl
        rw [Function.update_self] at hj
        cases hj
      rw [Function.update_of_ne hjk] at hj
      have hm := h.sound j m hj
      have hml : m ≠ l := by
        rintro rfl
        exact hjk (Option.some.inj (hm.symm.trans hl))
      rwa [Function.update_of_ne hml]
    · intro m j hm
      have hml : m ≠ l := by
        rintro rfl
        rw [Function.update_self] at hm
        cases hm
      rw [Function.update_of_ne hml] at hm
      have hjk : j ≠ k := fun hjk ↦ hml (honly m (hjk ▸ hm))
      rw [Function.update_of_ne hjk]
      exact h.complete m j hm

end Writes

end Index
