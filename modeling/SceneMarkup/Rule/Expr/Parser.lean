import SceneMarkup.Rule.Expr
import SceneMarkup.Rule.Token

/-!
# Parsing expressions

The levels of the grammar, from the weakest binding to the strongest:

    or         := and (("or" | "||") and)*
    and        := not (("and" | "&&") not)*
    not        := ("not" | "!") not | comparison
    comparison := additive (compareOp additive)*
    compareOp  := == | != | < | <= | > | >= | in | not in | is | is not
    additive   := term (("+" | "-") term)*
    term       := unary (("*" | "/" | "%") unary)*
    unary      := "-" unary | primary
    primary    := number | text | True | False | None | name | "(" or ")" | "[" (or ("," or)* ","?)? "]"

`Expr.parse` reads a whole text at the level `or`.
-/

namespace SceneMarkup.Rule

/-- The levels of the grammar. -/
inductive Level where
  | or | and | not | comparison | additive | term | unary | primary
deriving DecidableEq, Repr

namespace Level

/-- The next stronger level. -/
def next : Level → Level
  | .or => .and
  | .and => .not
  | .not => .comparison
  | .comparison => .additive
  | .additive => .term
  | .term => .unary
  | .unary => .primary
  | .primary => .primary

/-- How weakly the operators of a level bind. -/
def weakness : Level → Nat
  | .or => 8
  | .and => 7
  | .not => 6
  | .comparison => 5
  | .additive => 4
  | .term => 3
  | .unary => 2
  | .primary => 1

/-- There are eight levels. -/
theorem weakness_le (level : Level) : level.weakness ≤ 8 := by
  cases level <;> decide

/-- What a token between two operands of a level makes of them. -/
def operator? : Level → Token → Option (Expr → Expr → Expr)
  | .or, .word "or" => some .or
  | .or, .symbol .orSign => some .or
  | .and, .word "and" => some .and
  | .and, .symbol .andSign => some .and
  | .additive, .symbol .plus => some (.arith .add)
  | .additive, .symbol .minus => some (.arith .subtract)
  | .term, .symbol .times => some (.arith .multiply)
  | .term, .symbol .divide => some (.arith .divide)
  | .term, .symbol .modulo => some (.arith .modulo)
  | _, _ => none

/-- What a token before an operand of a level makes of it. -/
def leading? : Level → Token → Option (Expr → Expr)
  | .not, .word "not" => some .not
  | .not, .symbol .notSign => some .not
  | .unary, .symbol .minus => some .negate
  | _, _ => none

end Level

/-- The comparison operator at the start of the tokens and what follows it. The longer of two operators is read. -/
def compareOp? : List Token → Option (CompareOp × List Token)
  | .symbol .equal :: rest => some (.equal, rest)
  | .symbol .notEqual :: rest => some (.notEqual, rest)
  | .symbol .less :: rest => some (.less, rest)
  | .symbol .lessEqual :: rest => some (.lessEqual, rest)
  | .symbol .greater :: rest => some (.greater, rest)
  | .symbol .greaterEqual :: rest => some (.greaterEqual, rest)
  | .word "in" :: rest => some (.isIn, rest)
  | .word "is" :: .word "not" :: rest => some (.isNot, rest)
  | .word "is" :: rest => some (.is, rest)
  | .word "not" :: .word "in" :: rest => some (.notIn, rest)
  | _ => none

/-- The words that are not names. -/
def isKeyword (w : String) : Bool :=
  ["and", "or", "not", "in", "is"].contains w

/-- What a word stands for when it is an operand. -/
def wordExpr (w : String) : Except ParseError Expr :=
  if w = "True" ∨ w = "true" then .ok (.literal (.bool true))
  else if w = "False" ∨ w = "false" then .ok (.literal (.bool false))
  else if w = "None" ∨ w = "null" then .ok (.literal .none)
  else if isKeyword w then .error (.unexpectedKeyword w)
  else .ok (.name w)

/-- What is left of some tokens of which at least one has been read. -/
abbrev Fewer (ts : List Token) := {rest : List Token // rest.length < ts.length}

/-- What is left of some tokens of which none need have been read. -/
abbrev NoMore (ts : List Token) := {rest : List Token // rest.length ≤ ts.length}

/-- The tokens after a symbol that has to come first. -/
def expect (s : Symbol) : (ts : List Token) → Except ParseError (Fewer ts)
  | .symbol t :: rest => if t = s then .ok ⟨rest, by simp⟩ else .error (.expectedSymbol s)
  | _ => .error (.expectedSymbol s)

/-- What follows a comparison operator is fewer tokens. -/
theorem length_compareOp? {ts rest : List Token} {op : CompareOp} (h : compareOp? ts = some (op, rest)) :
    rest.length < ts.length := by
  unfold compareOp? at h
  split at h <;> cases h <;> simp only [List.length_cons] <;> omega

-- A reader calls another one on fewer tokens, or on the same tokens at a stronger level; so ten times the number of tokens
-- and the weakness of the level go down with every call.
mutual
/-- The expression of a level at the start of the tokens and what follows it. -/
def parseLevel (level : Level) (ts : List Token) : Except ParseError (Expr × Fewer ts) :=
  match _h : level with
  | .or | .and | .additive | .term => do
    let (first, ⟨rest, _⟩) ← parseLevel level.next ts
    let (e, ⟨rest, _⟩) ← parseOperands level first rest
    return (e, ⟨rest, by omega⟩)
  | .not | .unary =>
    match ts with
    | [] => parseLevel level.next []
    | t :: rest =>
      match level.leading? t with
      | some make => do
        let (e, ⟨rest, _⟩) ← parseLevel level rest
        return (make e, ⟨rest, by simp only [List.length_cons]; omega⟩)
      | none => parseLevel level.next (t :: rest)
  | .comparison => do
    let (first, ⟨rest, _⟩) ← parseLevel .additive ts
    let (chain, ⟨rest, _⟩) ← parseChain rest
    return (if chain.isEmpty then first else .compare first chain, ⟨rest, by omega⟩)
  | .primary =>
    match ts with
    | [] => .error .unexpectedEnd
    | .number x :: rest => return (.literal (.number x), ⟨rest, by simp⟩)
    | .str s :: rest => return (.literal (.str s), ⟨rest, by simp⟩)
    | .word w :: rest => do return (← wordExpr w, ⟨rest, by simp⟩)
    | .symbol .openParen :: rest => do
      let (e, ⟨rest, _⟩) ← parseLevel .or rest
      let ⟨rest, _⟩ ← expect .closeParen rest
      return (e, ⟨rest, by simp only [List.length_cons]; omega⟩)
    | .symbol .openBracket :: rest => do
      let (items, ⟨rest, _⟩) ← parseItems rest
      let ⟨rest, _⟩ ← expect .closeBracket rest
      return (.list items, ⟨rest, by simp only [List.length_cons]; omega⟩)
    | .symbol s :: _ => .error (.unexpectedSymbol s)
termination_by 10 * ts.length + level.weakness
decreasing_by
  all_goals simp only [*, List.length_cons, Level.next, Level.weakness]
  all_goals omega

/-- The further operands of a level, each joined to the expression before it. -/
def parseOperands (level : Level) (left : Expr) (ts : List Token) : Except ParseError (Expr × NoMore ts) :=
  match ts with
  | [] => return (left, ⟨[], Nat.le_refl _⟩)
  | t :: rest =>
    match level.operator? t with
    | some join => do
      let (right, ⟨rest, _⟩) ← parseLevel level.next rest
      let (e, ⟨rest, _⟩) ← parseOperands level (join left right) rest
      return (e, ⟨rest, by simp only [List.length_cons]; omega⟩)
    | none => return (left, ⟨t :: rest, Nat.le_refl _⟩)
termination_by 10 * ts.length
decreasing_by
  · have := level.next.weakness_le
    simp only [List.length_cons]
    omega
  · simp only [List.length_cons]
    omega

/-- The operators and operands of a comparison after its first operand. -/
def parseChain (ts : List Token) : Except ParseError (List (CompareOp × Expr) × NoMore ts) :=
  match _h : compareOp? ts with
  | some (op, rest) => do
    have := length_compareOp? _h
    let (e, ⟨rest, _⟩) ← parseLevel .additive rest
    let (chain, ⟨rest, _⟩) ← parseChain rest
    return ((op, e) :: chain, ⟨rest, by omega⟩)
  | none => return ([], ⟨ts, Nat.le_refl _⟩)
termination_by 10 * ts.length
decreasing_by
  · simp only [Level.weakness]
    omega
  · omega

/-- The items of a list, up to its closing bracket or to an item without a comma behind it. -/
def parseItems (ts : List Token) : Except ParseError (List Expr × NoMore ts) :=
  match ts with
  | .symbol .closeBracket :: rest => return ([], ⟨.symbol .closeBracket :: rest, Nat.le_refl _⟩)
  | ts => do
    let (e, ⟨rest, _⟩) ← parseLevel .or ts
    let (items, ⟨rest, _⟩) ← parseMoreItems rest
    return (e :: items, ⟨rest, by omega⟩)
termination_by 10 * ts.length + 9
decreasing_by
  · simp only [Level.weakness]
    omega
  · omega

/-- The items behind another one, of which there are none without a comma. -/
def parseMoreItems (ts : List Token) : Except ParseError (List Expr × NoMore ts) :=
  match ts with
  | .symbol .comma :: rest => do
    let (items, ⟨rest, _⟩) ← parseItems rest
    return (items, ⟨rest, by simp only [List.length_cons]; omega⟩)
  | ts => return ([], ⟨ts, Nat.le_refl _⟩)
termination_by 10 * ts.length
decreasing_by
  simp only [List.length_cons]
  omega
end

/-- The expression that a list of tokens is. -/
def Expr.ofTokens (ts : List Token) : Except ParseError Expr := do
  let (e, ⟨rest, _⟩) ← parseLevel .or ts
  match rest with
  | [] => return e
  | t :: _ => .error (.unexpectedToken t)

/-- The expression that a text is. -/
def Expr.parse (source : String) : Except ParseError Expr := do
  Expr.ofTokens (← tokens source.toList)

end SceneMarkup.Rule
