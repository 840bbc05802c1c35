import SceneMarkup.Rule.Expr.Evaluation

/-!
# Comparison chains

A comparison chain means that each of its operands compares with the next one. It has the value, or the error, of the
conjunction of these comparisons (`Expr.evaluate_compare_eq_conjunction`), although the conjunction evaluates every operand
between two operators twice.
-/

namespace SceneMarkup.Rule.Expr

/-- The comparisons of the adjacent operands of a chain. -/
def adjacentPairs (first : Expr) : List (CompareOp × Expr) → List Expr
  | [] => []
  | (op, e) :: rest => .compare first [(op, e)] :: adjacentPairs e rest

/-- The conjunction of some expressions, nested to the right. -/
def conjunction (e : Expr) : List Expr → Expr
  | [] => e
  | next :: rest => .and e (conjunction next rest)

variable (c : Context) (first e : Expr) (op : CompareOp) (rest : List (CompareOp × Expr))

/-- A conjunction is its second operand, if the first one holds. -/
theorem evaluate_and_eq_bind (a b : Expr) :
    evaluate c (.and a b) = evaluate c a >>= fun v => if v.isTruthy then evaluate c b else pure v := by
  rw [evaluate]

/-- A single comparison evaluates both of its operands, the first one first. -/
theorem evaluate_pair :
    evaluate c (.compare first [(op, e)]) = do
      return .bool (← Value.holds op (← evaluate c first) (← evaluate c e)) := by
  simp only [evaluate, evaluateChain, bind, Except.bind]
  cases evaluate c first with
  | error err => rfl
  | ok left =>
    cases evaluate c e with
    | error err => rfl
    | ok right =>
      simp only []
      cases Value.holds op left right with
      | error err => rfl
      | ok b => cases b <;> rfl

/-- A single comparison has a truth value if it has a value. -/
theorem exists_bool_of_evaluate_pair {v : Value} (h : evaluate c (.compare first [(op, e)]) = .ok v) : ∃ b, v = .bool b := by
  rw [evaluate_pair] at h
  simp only [bind, Except.bind] at h
  split at h
  · cases h
  split at h
  · cases h
  split at h
  · cases h
  exact ⟨_, (Except.ok.inj h).symm⟩

/-- A chain is its first comparison, and if that holds the chain that starts at the operand behind it. -/
theorem evaluate_compare_cons_cons (next : CompareOp × Expr) :
    evaluate c (.compare first ((op, e) :: next :: rest)) =
      evaluate c (.and (.compare first [(op, e)]) (.compare e (next :: rest))) := by
  rw [evaluate_and_eq_bind, evaluate_pair]
  simp only [evaluate, evaluateChain, bind, Except.bind]
  cases evaluate c first with
  | error err => rfl
  | ok left =>
    -- The second operand is the first one of the next comparison, where it has the same value again.
    cases evaluate c e with
    | error err => rfl
    | ok right =>
      simp only []
      cases Value.holds op left right with
      | error err => rfl
      | ok b => cases b <;> rfl

/-- A single comparison and another condition hold exactly if both of them do. -/
theorem evaluate_and_pair_eq_true_iff {other : Expr} :
    evaluate c (.and (.compare first [(op, e)]) other) = .ok (.bool true) ↔
      evaluate c (.compare first [(op, e)]) = .ok (.bool true) ∧ evaluate c other = .ok (.bool true) := by
  rw [evaluate_and_eq_bind]
  cases hpair : evaluate c (.compare first [(op, e)]) with
  | error err => simp [bind, Except.bind]
  | ok v =>
    obtain ⟨b, rfl⟩ := exists_bool_of_evaluate_pair c first e op hpair
    cases b <;> simp [bind, Except.bind, pure, Except.pure, Value.isTruthy]

/-- A comparison chain has the value or the error of the conjunction of the comparisons of its adjacent operands, and it holds
exactly if each of them does. -/
theorem evaluate_compare_eq_conjunction :
    evaluate c (.compare first ((op, e) :: rest)) =
        evaluate c (conjunction (.compare first [(op, e)]) (adjacentPairs e rest)) ∧
      (evaluate c (.compare first ((op, e) :: rest)) = .ok (.bool true) ↔
        ∀ pair ∈ adjacentPairs first ((op, e) :: rest), evaluate c pair = .ok (.bool true)) := by
  -- The chain behind an operand starts at this operand, so both stay general.
  induction rest generalizing first op e with
  | nil => simp [conjunction, adjacentPairs]
  | cons next rest ih =>
    obtain ⟨nextOp, operand⟩ := next
    obtain ⟨hvalue, htrue⟩ := ih e operand nextOp
    constructor
    · rw [evaluate_compare_cons_cons, adjacentPairs, conjunction, evaluate_and_eq_bind, evaluate_and_eq_bind, hvalue]
    · simp only [evaluate_compare_cons_cons, evaluate_and_pair_eq_true_iff, htrue, adjacentPairs, List.forall_mem_cons]

/-- A chain stops at its first pair that does not hold, and does not come to ask what it lacks. -/
example : evaluate .empty (.compare (.literal (.str "b")) [(.less, .literal (.str "a")), (.isIn, .name "missing")]) =
    .ok (.bool false) := by
  rfl

end SceneMarkup.Rule.Expr
