import SceneMarkup.Json.Basic

/-!
# Equality of JSON values

Objects are compared without regard to the order of their fields. Two such equalities are used: `Json.same` keeps whole
numbers apart from the others, `Json.sameValue` compares all numbers by value, so that `1` equals `1.0`.
-/

namespace SceneMarkup

namespace Json

mutual
/-- Equality up to the order of fields, where `sameNumber` decides on numbers. -/
def sameBy (sameNumber : JsonNumber → JsonNumber → Bool) : Json → Json → Bool
  | .null, .null => true
  | .bool a, .bool b => a == b
  | .num a, .num b => sameNumber a b
  | .str a, .str b => a == b
  | .arr xs, .arr ys => sameItems sameNumber xs ys
  | .obj fs, .obj gs => fs.length == gs.length && sameFields sameNumber fs gs
  | _, _ => false

/-- The items are equal one by one. -/
def sameItems (sameNumber : JsonNumber → JsonNumber → Bool) : List Json → List Json → Bool
  | [], [] => true
  | x :: xs, y :: ys => sameBy sameNumber x y && sameItems sameNumber xs ys
  | _, _ => false

/-- Every field of the first object is in the second with an equal value. -/
def sameFields (sameNumber : JsonNumber → JsonNumber → Bool) : List (String × Json) → List (String × Json) → Bool
  | [], _ => true
  | (name, v) :: rest, gs =>
    (match gs.lookup name with
      | some w => sameBy sameNumber v w
      | none => false) && sameFields sameNumber rest gs
end

/-- Equality up to the order of fields; a whole number differs from one that was written with a fraction. -/
def same : Json → Json → Bool :=
  sameBy fun
    | .whole m, .whole n => m == n
    | .real x _, .real y _ => x == y
    | _, _ => false

/-- Equality up to the order of fields, with numbers compared by value. -/
def sameValue : Json → Json → Bool :=
  sameBy fun m n => m.toFloat == n.toFloat

end Json

end SceneMarkup
