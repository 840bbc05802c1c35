import SceneMarkup.Json.Basic

/-!
# Decoding JSON values into records

A record is written as an object with its fields by name, or as an array with its fields in their order. Fields that the
record does not have are passed over in an object and refused in an array; a field given twice is refused.
-/

namespace SceneMarkup

namespace Json

/-- The fields of a record in the order in which they are written. -/
def recordFields? (names : List String) : Json → Option (List (String × Json))
  | .obj fields => some (fields.filter fun f => names.contains f.1)
  | .arr items => if items.length ≤ names.length then some (names.zip items) else none
  | _ => none

/-- The values given under a name. -/
def valuesOf (name : String) (fields : List (String × Json)) : List Json :=
  fields.filterMap fun f => if f.1 = name then some f.2 else none

/-- The value of a field, which may be missing but not be given twice. -/
def fieldOnce? (fields : List (String × Json)) (name : String) : Option (Option Json) :=
  match valuesOf name fields with
  | [] => some none
  | [v] => some (some v)
  | _ => none

/-- The values of the fields of a record in the order of their names; each may be missing. -/
def record? (names : List String) (v : Json) : Option (List (Option Json)) := do
  names.mapM (fieldOnce? (← v.recordFields? names))

/-- A truth value. -/
def bool? : Json → Option Bool
  | .bool b => some b
  | _ => none

/-- A number that counts something: whole and not negative. -/
def count? : Json → Option Nat
  | .num (.whole n) => if 0 ≤ n then some n.toNat else none
  | _ => none

/-- The name of a choice without contents, written as a string or as an object with one field that is null. -/
def choice? : Json → Option String
  | .str s => some s
  | .obj [(name, .null)] => some name
  | _ => none

end Json

end SceneMarkup
