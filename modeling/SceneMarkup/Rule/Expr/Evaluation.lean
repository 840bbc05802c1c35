import SceneMarkup.Rule.Expr
import SceneMarkup.Decimal.Binary

/-!
# The value of an expression

Operands are evaluated from left to right and the first error wins. `and` and `or` answer with the operand that decides and
leave the other alone; a comparison chain stops at its first pair that does not hold.
-/

namespace SceneMarkup.Rule

/-- The values of the names that an expression may read. The last value set for a name counts. -/
structure Context where
  entries : List (String × Value)
deriving Inhabited

namespace Context

/-- The context without names. -/
def empty : Context := ⟨[]⟩

/-- The context in which a name has a value. -/
def set (name : String) (v : Value) (c : Context) : Context :=
  ⟨(name, v) :: c.entries⟩

/-- The context with these names, of which a later one counts more. -/
def ofList (entries : List (String × Value)) : Context :=
  entries.foldl (fun c e => c.set e.1 e.2) empty

/-- The value of a name. -/
def get? (c : Context) (name : String) : Option Value :=
  c.entries.lookup name

/-- Setting a name changes its value and no other. -/
theorem get?_set (c : Context) (name other : String) (v : Value) :
    (c.set name v).get? other = if other = name then some v else c.get? other := by
  simp only [get?, set, List.lookup_cons]
  by_cases h : other = name <;> simp [h, beq_eq_false_iff_ne.2]

end Context

/-- Why an expression has no value. -/
inductive EvalError where
  | undefinedName (name : String)
  | notNegatable (type : String)
  | unsupportedOperands (op : ArithOp) (left right : String)
  | divisionByZero
  | moduloByZero
  | notOrdered (left right : String)
  | notText (type : String)
  | notIterable (type : String)
deriving DecidableEq

/-- The text for people. -/
def EvalError.message : EvalError → String
  | .undefinedName name => "name '" ++ name ++ "' is not defined"
  | .notNegatable type => "bad operand type for unary -: '" ++ type ++ "'"
  | .unsupportedOperands op left right =>
    "unsupported operand types for " ++ op.name ++ ": '" ++ left ++ "' and '" ++ right ++ "'"
  | .divisionByZero => "division by zero"
  | .moduloByZero => "modulo by zero"
  | .notOrdered left right => "ordering not supported between '" ++ left ++ "' and '" ++ right ++ "'"
  | .notText type => "'in <string>' requires string as left operand, not " ++ type
  | .notIterable type => "argument of type '" ++ type ++ "' is not iterable"

namespace Value

/-- The numbers of two values, where both have one. -/
def numbers? (a b : Value) : Option (Float × Float) :=
  match a.number?, b.number? with
  | some x, some y => some (x, y)
  | _, _ => Option.none

/-- The result of an arithmetic operator on numbers. The remainder has the sign of the divisor. -/
def arithNumbers (op : ArithOp) (x y : Float) : Except EvalError Float :=
  match op with
  | .add => .ok (x + y)
  | .subtract => .ok (x - y)
  | .multiply => .ok (x * y)
  | .divide => if y == 0 then .error .divisionByZero else .ok (x / y)
  | .modulo => if y == 0 then .error .moduloByZero else .ok (x - y * floorOf (x / y))

/-- The result of an arithmetic operator. Texts and lists can be joined. -/
def arith : ArithOp → Value → Value → Except EvalError Value
  | .add, .str a, .str b => .ok (.str (a ++ b))
  | .add, .list a, .list b => .ok (.list (a ++ b))
  | op, a, b =>
    match numbers? a b with
    | some (x, y) => (arithNumbers op x y).map .number
    | Option.none => .error (.unsupportedOperands op a.typeName b.typeName)

mutual
/-- Equality: numbers and truth values compare as numbers, values of different types differ. -/
def looseEqual : Value → Value → Bool
  | .none, .none => true
  | .str a, .str b => a == b
  | .list a, .list b => looseEqualItems a b
  | a, b =>
    match numbers? a b with
    | some (x, y) => x == y
    | Option.none => false

/-- The items are equal one by one. -/
def looseEqualItems : List Value → List Value → Bool
  | [], [] => true
  | a :: as, b :: bs => looseEqual a b && looseEqualItems as bs
  | _, _ => false
end

/-- Equality of type and value; a list is never the same as another. -/
def identical : Value → Value → Bool
  | .none, .none => true
  | .bool a, .bool b => a == b
  | .number x, .number y => x == y
  | .str a, .str b => a == b
  | _, _ => false

/-- The order of two numbers, of which NaN has none. -/
def orderNumbers? (x y : Float) : Option Ordering :=
  if x < y then some .lt
  else if x == y then some .eq
  else if y < x then some .gt
  else Option.none

mutual
/-- The order of two values: numbers and truth values by number, texts by code points, lists by their first items that
differ. -/
def ordering : Value → Value → Except EvalError Ordering
  | .str a, .str b => .ok (Ord.compare a b)
  | .list a, .list b => orderingItems a b
  | a, b =>
    match (numbers? a b).bind fun (x, y) => orderNumbers? x y with
    | some o => .ok o
    | Option.none => .error (.notOrdered a.typeName b.typeName)

/-- The order of the first items that differ; of two lists without such items the shorter is less. -/
def orderingItems : List Value → List Value → Except EvalError Ordering
  | [], [] => .ok .eq
  | [], _ :: _ => .ok .lt
  | _ :: _, [] => .ok .gt
  | a :: as, b :: bs => if looseEqual a b then orderingItems as bs else ordering a b
end

/-- The first text is found inside the second. -/
def occursIn (part : List Char) : List Char → Bool
  | [] => part.isEmpty
  | c :: rest => part.isPrefixOf (c :: rest) || occursIn part rest

/-- The item is in the list, or the text in the text. -/
def contains : (container item : Value) → Except EvalError Bool
  | .list items, item => .ok (items.any (looseEqual · item))
  | .str text, .str part => .ok (occursIn part.toList text.toList)
  | .str _, item => .error (.notText item.typeName)
  | container, _ => .error (.notIterable container.typeName)

/-- The comparison holds. -/
def holds (op : CompareOp) (a b : Value) : Except EvalError Bool :=
  match op with
  | .equal => .ok (looseEqual a b)
  | .notEqual => .ok (!looseEqual a b)
  | .less => (ordering a b).map (· == .lt)
  | .lessEqual => (ordering a b).map (· != .gt)
  | .greater => (ordering a b).map (· == .gt)
  | .greaterEqual => (ordering a b).map (· != .lt)
  | .isIn => contains b a
  | .notIn => (contains b a).map (!·)
  | .is => .ok (identical a b)
  | .isNot => .ok (!identical a b)

end Value

namespace Expr

mutual
/-- The value of an expression in a context. -/
def evaluate (c : Context) : Expr → Except EvalError Value
  | .literal v => .ok v
  | .name n =>
    match c.get? n with
    | some v => .ok v
    | none => .error (.undefinedName n)
  | .list items => do return .list (← evaluateItems c items)
  | .not e => do return .bool (!(← evaluate c e).isTruthy)
  | .negate e => do
    let v ← evaluate c e
    match v.number? with
    | some x => return .number (-x)
    | none => .error (.notNegatable v.typeName)
  | .arith op a b => do
    let a ← evaluate c a
    let b ← evaluate c b
    Value.arith op a b
  | .compare first rest => do evaluateChain c (← evaluate c first) rest
  | .and a b => do
    let v ← evaluate c a
    if v.isTruthy then evaluate c b else return v
  | .or a b => do
    let v ← evaluate c a
    if v.isTruthy then return v else evaluate c b

/-- The values of the items of a list. -/
def evaluateItems (c : Context) : List Expr → Except EvalError (List Value)
  | [] => .ok []
  | e :: rest => do
    let v ← evaluate c e
    return v :: (← evaluateItems c rest)

/-- The value of a comparison chain after its operand `left`. -/
def evaluateChain (c : Context) (left : Value) : List (CompareOp × Expr) → Except EvalError Value
  | [] => .ok (.bool true)
  | (op, e) :: rest => do
    let right ← evaluate c e
    if ← Value.holds op left right then evaluateChain c right rest else return .bool false
end

end Expr

end SceneMarkup.Rule
