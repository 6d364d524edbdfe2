import WorkWithMe.Lib.Json

/-!
# Reading records from JSON documents

A derived decoder of a record type reads an object, each field from the members of its name (or of
one of its aliases), and skips the members it does not know.  It reads an array as well, whose
elements are the fields in their order.  A document that is neither, an array that is too long, a
field that is given twice, a required field that is not there and a value of the wrong type are all
errors, which are `none` here.

`Json.required` and `Json.withDefault` are the two kinds of fields.
-/

set_option autoImplicit false

namespace Json

variable {α : Type}

/-- Can the document be read as a record of `n` fields? -/
def isRecord (n : ℕ) : Json → Bool
  | obj _ => true
  | arr elems => elems.length ≤ n
  | _ => false

/-- The values the document has for the `i`-th field, which goes by the given names. -/
def fieldValues (v : Json) (i : ℕ) (names : List String) : List Json :=
  match v with
  | obj ms => (ms.filter fun m ↦ names.contains m.1).map Prod.snd
  | arr elems => elems[i]?.toList
  | _ => []

/-- A field that has to be there. -/
def required (decode : Json → Option α) : List Json → Option α
  | [w] => decode w
  | _ => none

/-- A field with a default. -/
def withDefault (default : α) (decode : Json → Option α) : List Json → Option α
  | [] => some default
  | [w] => decode w
  | _ => none

/-! ## Types of fields -/

/-- The value of a boolean. -/
def asBool : Json → Option Bool
  | bool b => some b
  | _ => none

end Json
