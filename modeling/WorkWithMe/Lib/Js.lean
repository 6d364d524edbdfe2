import WorkWithMe.Lib.Json

/-!
# JSON documents as JavaScript values

What a JavaScript program sees when it has parsed a document: which values are falsy, what `a || b`
comes to, and which text a value is as the key of an object.  How numbers are written, and which of
them are zero, is left to `Numbers`.

A key that an empty object has already, by its prototype, is in `objectMembers`.
-/

set_option autoImplicit false

namespace Js

/-- Numbers, by the text they have in a document. -/
structure Numbers where
  /-- The number is zero. -/
  isZero : String → Bool
  /-- The text of the number. -/
  toText : String → String

/-- Numbers that are written as they are in the document. -/
def Numbers.plain : Numbers := ⟨fun t ↦ t == "0", id⟩

variable (n : Numbers)

/-- The value counts as true. -/
def truthy : Json → Bool
  | .null => false
  | .bool b => b
  | .num t => !n.isZero t
  | .str s => s ≠ ""
  | .arr _ => true
  | .obj _ => true

/-- `a || b || … || z`, where some of `a`, `b`, … may be `undefined` and `z` counts as true. -/
def firstTruthy (vs : List (Option Json)) (z : Json) : Json :=
  ((vs.filterMap id).find? (truthy n)).getD z

mutual

/-- The text of a value.  An object that has a member `toString` is a `TypeError`. -/
def toText : Json → Option String
  | .null => some "null"
  | .bool b => some (if b then "true" else "false")
  | .num t => some (n.toText t)
  | .str s => some s
  | .arr elems => joined elems
  | .obj members => if (members.lookup "toString").isSome then none else some "[object Object]"

/-- The texts of the elements of an array, with commas; `null` has none. -/
def joined : List Json → Option String
  | [] => some ""
  | v :: vs =>
    match toText v, joined vs with
    | some a, some b =>
      let a := match v with
        | .null => ""
        | _ => a
      some (if vs.isEmpty then a else a ++ "," ++ b)
    | _, _ => none

end

/-- The members of the prototype of an empty object. -/
def objectMembers : List String :=
  ["constructor", "__defineGetter__", "__defineSetter__", "hasOwnProperty", "__lookupGetter__",
    "__lookupSetter__", "isPrototypeOf", "propertyIsEnumerable", "toString", "valueOf", "__proto__",
    "toLocaleString"]

end Js
