import SceneMarkup.Rule.Value

/-!
# Rule expressions

Expressions read names from a context and combine values with comparison, membership, truth and arithmetic operators.
-/

namespace SceneMarkup.Rule

/-- The arithmetic operators. -/
inductive ArithOp where
  | add | subtract | multiply | divide | modulo
deriving DecidableEq, Repr

/-- The name of an operator in messages. -/
def ArithOp.name : ArithOp → String
  | .add => "Add"
  | .subtract => "Subtract"
  | .multiply => "Multiply"
  | .divide => "Divide"
  | .modulo => "Modulo"

/-- The comparison operators. -/
inductive CompareOp where
  | equal | notEqual | less | lessEqual | greater | greaterEqual | isIn | notIn | is | isNot
deriving DecidableEq, Repr

/-- An expression. A comparison is a chain: it holds when every adjacent pair does. -/
inductive Expr where
  | literal (v : Value)
  | name (n : String)
  | list (items : List Expr)
  | not (e : Expr)
  | negate (e : Expr)
  | arith (op : ArithOp) (a b : Expr)
  | compare (first : Expr) (rest : List (CompareOp × Expr))
  | and (a b : Expr)
  | or (a b : Expr)
deriving Inhabited

end SceneMarkup.Rule
