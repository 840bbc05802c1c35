import SceneMarkup.Decimal.Layout
import SceneMarkup.Named

/-!
# JSON values

The value type that scene exports, default tables and configurations are made of. An object keeps its fields in order, and
a number written without fraction or exponent stays apart from the other numbers, so that it is written back as it was
read. Reading guarantees what the type leaves open: the names of an object's fields are distinct (`Json.Distinct`).
-/

namespace SceneMarkup

/-- A JSON number: a whole number, or a finite binary64 number. -/
inductive JsonNumber where
  | whole (n : Int)
  | real (x : Float) (finite : x.isFinite = true)
deriving DecidableEq

/-- The number as a binary64 number, the nearest one to a whole number too large to be exact. -/
def JsonNumber.toFloat : JsonNumber → Float
  | .whole n => Float.ofInt n
  | .real x _ => x

/-- A JSON value. -/
inductive Json where
  | null
  | bool (b : Bool)
  | num (n : JsonNumber)
  | str (s : String)
  | arr (items : List Json)
  | obj (fields : List (String × Json))
deriving Inhabited

/-- The fields of an object in their order. -/
abbrev Fields := Named Json

namespace Fields

/-- Takes a field out. The last field moves to its place. -/
def takeOut (name : String) : Fields → Fields
  | [] => []
  | (n, v) :: rest =>
    if n = name then
      match rest.getLast? with
      | some last => last :: rest.dropLast
      | none => []
    else (n, v) :: takeOut name rest

end Fields

namespace Json

/-- A whole number. -/
def int (n : Int) : Json := .num (.whole n)

/-- The number of a number. -/
def number? : Json → Option Float
  | .num n => some n.toFloat
  | _ => none

/-- The text of a string. -/
def string? : Json → Option String
  | .str s => some s
  | _ => none

/-- The items of an array. -/
def items? : Json → Option (List Json)
  | .arr items => some items
  | _ => none

/-- The fields of an object. -/
def fields? : Json → Option Fields
  | .obj fields => some fields
  | _ => none

/-- The value of a field of an object. -/
def field? (v : Json) (name : String) : Option Json :=
  v.fields?.bind (List.lookup name)

/-- The value is `null`. -/
def isNull : Json → Bool
  | .null => true
  | _ => false

mutual
/-- At every depth the names of an object's fields are distinct. -/
def Distinct : Json → Prop
  | .arr items => DistinctItems items
  | .obj fields => (fields.map Prod.fst).Nodup ∧ DistinctFields fields
  | _ => True

/-- `Distinct` of every item. -/
def DistinctItems : List Json → Prop
  | [] => True
  | v :: rest => v.Distinct ∧ DistinctItems rest

/-- `Distinct` of every field's value. -/
def DistinctFields : List (String × Json) → Prop
  | [] => True
  | (_, v) :: rest => v.Distinct ∧ DistinctFields rest
end

end Json

end SceneMarkup
