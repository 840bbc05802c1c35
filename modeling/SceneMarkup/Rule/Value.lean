import SceneMarkup.Json.Basic

/-!
# Rule values

The values that rule expressions compute with. Every JSON value except an object has one.
-/

namespace SceneMarkup.Rule

/-- A value of the rule language. -/
inductive Value where
  | none
  | bool (b : Bool)
  | number (x : Float)
  | str (s : String)
  | list (items : List Value)
deriving Inhabited

namespace Value

/-- Nothing, false, zero and what is empty do not hold. -/
def isTruthy : Value → Bool
  | .none => false
  | .bool b => b
  | .number x => x != 0
  | .str s => s != ""
  | .list items => !items.isEmpty

/-- The value as a number; a truth value counts as one or zero. -/
def number? : Value → Option Float
  | .number x => some x
  | .bool b => some (if b then 1 else 0)
  | _ => Option.none

/-- The name of the value's type in messages. -/
def typeName : Value → String
  | .none => "None"
  | .bool _ => "bool"
  | .number _ => "number"
  | .str _ => "str"
  | .list _ => "list"

mutual
/-- The characters that show a value. A text stands for itself, and between single quotes inside a list. -/
def chars : Value → List Char
  | .none => "None".toList
  | .bool true => "True".toList
  | .bool false => "False".toList
  | .number x => (formatNumber x).toList
  | .str s => s.toList
  | .list [] => ['[', ']']
  | .list (v :: rest) => '[' :: v.itemChars ++ restChars rest ++ [']']

/-- The characters that show a value inside a list. -/
def itemChars : Value → List Char
  | .str s => '\'' :: s.toList ++ ['\'']
  | v => v.chars

/-- The characters that show the items of a list after the first. -/
def restChars : List Value → List Char
  | [] => []
  | v :: rest => ',' :: ' ' :: v.itemChars ++ restChars rest
end

/-- The text that shows a value. -/
def display (v : Value) : String :=
  String.ofList v.chars

mutual
/-- The value that a JSON value stands for; an object stands for nothing. -/
def ofJson : Json → Value
  | .null | .obj _ => .none
  | .bool b => .bool b
  | .num n => .number n.toFloat
  | .str s => .str s
  | .arr items => .list (ofJsonItems items)

/-- `ofJson` of every item. -/
def ofJsonItems : List Json → List Value
  | [] => []
  | v :: rest => ofJson v :: ofJsonItems rest
end

mutual
/-- The value that a JSON value without objects stands for. -/
def ofJson? : Json → Option Value
  | .null => some .none
  | .bool b => some (.bool b)
  | .num n => some (.number n.toFloat)
  | .str s => some (.str s)
  | .arr items => (ofJsonItems? items).map .list
  | .obj _ => Option.none

/-- `ofJson?` of every item. -/
def ofJsonItems? : List Json → Option (List Value)
  | [] => some []
  | v :: rest => do return (← ofJson? v) :: (← ofJsonItems? rest)
end

end Value

end SceneMarkup.Rule
