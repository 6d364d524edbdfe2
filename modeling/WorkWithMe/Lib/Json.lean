import Mathlib.Data.List.Basic

/-!
# JSON documents

`Json` is a parsed JSON document and the operations on it are those of a dynamically typed JSON
library: a read of a member of something that is not an object finds nothing, and a write into
something that is not an object is either ignored (`Json.insert`, the guarded form) or a panic
(`Json.setIndex`, the indexing form, which answers `none`).

The members of an object are an association list.  `insertMember` replaces the member in place, so
a list that starts without repeated names stays without them, but nothing here needs that: every
statement is about what `Json.get` finds.

A number is kept as the text it was written as, since nothing here computes with one.
-/

set_option autoImplicit false

/-- A JSON document. -/
inductive Json where
  /-- `null`. -/
  | null
  /-- `true` or `false`. -/
  | bool (b : Bool)
  /-- A number, as its text. -/
  | num (text : String)
  /-- A string. -/
  | str (s : String)
  /-- An array. -/
  | arr (elems : List Json)
  /-- An object. -/
  | obj (members : List (String × Json))

namespace Json

/-! ## Association lists -/

section Members

variable {β : Type}

/-- Write a member, in place of the one of that name if there is one. -/
def insertMember (k : String) (v : β) : List (String × β) → List (String × β)
  | [] => [(k, v)]
  | (j, w) :: ms => if j = k then (k, v) :: ms else (j, w) :: insertMember k v ms

/-- The members other than those named `k`. -/
def removeMember (k : String) (ms : List (String × β)) : List (String × β) :=
  ms.filter fun m ↦ m.1 ≠ k

theorem lookup_insertMember_self (k : String) (v : β) (ms : List (String × β)) :
    (insertMember k v ms).lookup k = some v := by
  induction ms with
  | nil => simp [insertMember]
  | cons m ms ih =>
    obtain ⟨j, w⟩ := m
    rw [insertMember]
    split
    · simp
    · rename_i hne
      rw [List.lookup_cons, beq_false_of_ne (Ne.symm hne)]
      exact ih

theorem lookup_insertMember_of_ne {j k : String} (h : j ≠ k) (v : β) (ms : List (String × β)) :
    (insertMember k v ms).lookup j = ms.lookup j := by
  induction ms with
  | nil => simp [insertMember, List.lookup_cons, beq_false_of_ne h]
  | cons m ms ih =>
    obtain ⟨i, w⟩ := m
    rw [insertMember]
    split
    · rename_i he
      simp [List.lookup_cons, he, beq_false_of_ne h]
    · rw [List.lookup_cons, List.lookup_cons, ih]

theorem lookup_removeMember_self (k : String) (ms : List (String × β)) :
    (removeMember k ms).lookup k = none := by
  induction ms with
  | nil => rfl
  | cons m ms ih =>
    rw [removeMember, List.filter_cons]
    split
    · rename_i hne
      rw [List.lookup_cons, beq_false_of_ne (Ne.symm (by simpa using hne))]
      exact ih
    · exact ih

theorem lookup_removeMember_of_ne {j k : String} (h : j ≠ k) (ms : List (String × β)) :
    (removeMember k ms).lookup j = ms.lookup j := by
  induction ms with
  | nil => rfl
  | cons m ms ih =>
    obtain ⟨i, w⟩ := m
    rw [removeMember, List.filter_cons]
    split
    · rw [List.lookup_cons, List.lookup_cons]
      split
      · rfl
      · exact ih
    · rename_i he
      have hi : i = k := by simpa using he
      rw [List.lookup_cons, beq_false_of_ne (hi ▸ h)]
      exact ih

end Members

/-! ## Reading -/

/-- Is the document an object? -/
def isObject : Json → Bool
  | obj _ => true
  | _ => false

/-- The member `k`, if the document is an object that has it. -/
def get (v : Json) (k : String) : Option Json :=
  match v with
  | obj ms => ms.lookup k
  | _ => none

/-- The text of a string. -/
def asStr : Json → Option String
  | str s => some s
  | _ => none

/-- `v[k]` as an expression: a member that is not there reads as `null`. -/
def index (v : Json) (k : String) : Json := (v.get k).getD null

/-! ## Writing -/

/-- Write the member `k` of an object; anything else stays as it is. -/
def insert (v : Json) (k : String) (w : Json) : Json :=
  match v with
  | obj ms => obj (insertMember k w ms)
  | v => v

/-- Remove the member `k` of an object; anything else stays as it is. -/
def remove (v : Json) (k : String) : Json :=
  match v with
  | obj ms => obj (removeMember k ms)
  | v => v

/-- `v[k] = w` as a statement: `null` turns into an object first, and a document that is neither
`null` nor an object makes the program panic. -/
def setIndex (v : Json) (k : String) (w : Json) : Option Json :=
  match v with
  | null => some (obj [(k, w)])
  | obj ms => some (obj (insertMember k w ms))
  | _ => none

/-! ## What a write leaves to be read -/

@[simp] theorem isObject_obj (ms : List (String × Json)) : (obj ms).isObject = true := rfl

@[simp] theorem get_obj (ms : List (String × Json)) (k : String) :
    (obj ms).get k = ms.lookup k := rfl

@[simp] theorem asStr_str (s : String) : (str s).asStr = some s := rfl

theorem isObject_iff {v : Json} : v.isObject = true ↔ ∃ ms, v = obj ms := by
  cases v <;> simp [isObject]

theorem isObject_of_get {v w : Json} {k : String} (h : v.get k = some w) : v.isObject = true := by
  cases v <;> simp [get] at h ⊢

/-- What is no object has no members. -/
theorem get_eq_none {v : Json} (h : ¬ v.isObject = true) (k : String) : v.get k = none := by
  cases hget : v.get k with
  | none => rfl
  | some w => exact absurd (isObject_of_get hget) h

@[simp] theorem isObject_insert (v : Json) (k : String) (w : Json) :
    (v.insert k w).isObject = v.isObject := by
  cases v <;> rfl

theorem get_insert_self {v : Json} (h : v.isObject = true) (k : String) (w : Json) :
    (v.insert k w).get k = some w := by
  obtain ⟨ms, rfl⟩ := isObject_iff.mp h
  exact lookup_insertMember_self k w ms

@[simp] theorem get_insert_of_ne (v : Json) {j k : String} (h : j ≠ k) (w : Json) :
    (v.insert k w).get j = v.get j := by
  cases v with
  | obj ms => exact lookup_insertMember_of_ne h w ms
  | _ => rfl

theorem get_index (v : Json) (k j : String) :
    (v.index k).get j = (v.get k).bind fun w ↦ w.get j := by
  rw [index]
  cases v.get k with
  | none => rfl
  | some w => rfl

theorem get_remove_self (v : Json) (k : String) : (v.remove k).get k = none := by
  cases v with
  | obj ms => exact lookup_removeMember_self k ms
  | _ => rfl

theorem get_remove_of_ne (v : Json) {j k : String} (h : j ≠ k) :
    (v.remove k).get j = v.get j := by
  cases v with
  | obj ms => exact lookup_removeMember_of_ne h ms
  | _ => rfl

/-- Where a write by index does not panic. -/
theorem exists_setIndex_iff {v w : Json} {k : String} :
    (∃ v', v.setIndex k w = some v') ↔ v = null ∨ v.isObject = true := by
  cases v <;> simp [setIndex, isObject]

theorem get_setIndex_self {v w v' : Json} {k : String} (h : v.setIndex k w = some v') :
    v'.get k = some w := by
  cases v with
  | null => cases h; simp
  | obj ms => cases h; exact lookup_insertMember_self k w ms
  | _ => simp [setIndex] at h

theorem get_setIndex_of_ne {v w v' : Json} {j k : String} (hne : j ≠ k)
    (h : v.setIndex k w = some v') : v'.get j = v.get j := by
  cases v with
  | null => cases h; simp [get, List.lookup_cons, beq_false_of_ne hne]
  | obj ms => cases h; exact lookup_insertMember_of_ne hne w ms
  | _ => simp [setIndex] at h

end Json
