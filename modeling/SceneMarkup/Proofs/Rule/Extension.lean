import SceneMarkup.Rule.Expr.Evaluation

/-!
# Contexts that define more names

A context extends another one if it gives each name of that one the same value. What an expression is in a context it is in
every context that extends it: its value, and likewise its error, unless the error is that a name is missing, and then the
context does lack the name (`Expr.evaluate_of_extends`).
-/

namespace SceneMarkup.Rule

/-- The context gives each name that another one defines the same value. -/
def Context.Extends (d c : Context) : Prop :=
  ∀ name v, c.get? name = some v → d.get? name = some v

/-- A context is extended by setting a name that it lacks. -/
theorem Context.extends_set {c : Context} {name : String} (h : c.get? name = none) (v : Value) :
    (c.set name v).Extends c := by
  intro other w hw
  have hne : other ≠ name := by
    rintro rfl
    rw [h] at hw
    cases hw
  rw [Context.get?_set, if_neg hne, hw]

/-- The second result is the first one, unless the first one is that the context lacks a name. -/
def Persists {α : Type} (c : Context) (x y : Except EvalError α) : Prop :=
  x = y ∨ ∃ name, c.get? name = none ∧ x = .error (.undefinedName name)

namespace Persists

variable {α β : Type} {c : Context} {x y : Except EvalError α}

/-- A result persists as itself. -/
theorem refl (x : Except EvalError α) : Persists c x x :=
  .inl rfl

/-- A computation goes on as before from a result that persists. -/
theorem bind {f g : α → Except EvalError β} (h : Persists c x y) (hf : ∀ a, Persists c (f a) (g a)) :
    Persists c (x >>= f) (y >>= g) := by
  rcases h with rfl | ⟨name, hname, rfl⟩
  · cases x with
    | error err => exact refl _
    | ok a => exact hf a
  · exact .inr ⟨name, hname, rfl⟩

/-- A branch on a fact that does not depend on the context. -/
theorem ite {p : Prop} [Decidable p] {x' y' : Except EvalError α} (h : Persists c x y) (h' : Persists c x' y') :
    Persists c (if p then x else x') (if p then y else y') := by
  split
  · exact h
  · exact h'

end Persists

namespace Expr

variable {c d : Context}

mutual
/-- What an expression is in a context persists in a context that extends it. -/
theorem persists_evaluate (h : d.Extends c) : (e : Expr) → Persists c (e.evaluate c) (e.evaluate d)
  | .literal v => by
    rw [evaluate, evaluate]
    exact .refl _
  | .name n => by
    rw [evaluate, evaluate]
    cases hn : c.get? n with
    | some v =>
      rw [h n v hn]
      exact .refl _
    | none => exact .inr ⟨n, hn, rfl⟩
  | .list items => by
    rw [evaluate, evaluate]
    exact (persists_evaluateItems h items).bind fun vs => .refl _
  | .not e => by
    rw [evaluate, evaluate]
    exact (persists_evaluate h e).bind fun v => .refl _
  | .negate e => by
    rw [evaluate, evaluate]
    exact (persists_evaluate h e).bind fun v => .refl _
  | .arith op a b => by
    rw [evaluate, evaluate]
    exact (persists_evaluate h a).bind fun v => (persists_evaluate h b).bind fun w => .refl _
  | .compare first rest => by
    rw [evaluate, evaluate]
    exact (persists_evaluate h first).bind fun left => persists_evaluateChain h left rest
  | .and a b => by
    rw [evaluate, evaluate]
    exact (persists_evaluate h a).bind fun v => .ite (persists_evaluate h b) (.refl _)
  | .or a b => by
    rw [evaluate, evaluate]
    exact (persists_evaluate h a).bind fun v => .ite (.refl _) (persists_evaluate h b)

/-- What the items of a list are persists. -/
theorem persists_evaluateItems (h : d.Extends c) : (items : List Expr) →
    Persists c (evaluateItems c items) (evaluateItems d items)
  | [] => by
    rw [evaluateItems, evaluateItems]
    exact .refl _
  | e :: rest => by
    rw [evaluateItems, evaluateItems]
    exact (persists_evaluate h e).bind fun v => (persists_evaluateItems h rest).bind fun vs => .refl _

/-- What a comparison is after its operand `left` persists: it stops in both contexts at the same pair. -/
theorem persists_evaluateChain (h : d.Extends c) : (left : Value) → (rest : List (CompareOp × Expr)) →
    Persists c (evaluateChain c left rest) (evaluateChain d left rest)
  | left, [] => by
    rw [evaluateChain, evaluateChain]
    exact .refl _
  | left, (op, e) :: rest => by
    rw [evaluateChain, evaluateChain]
    refine (persists_evaluate h e).bind fun right => Persists.bind (.refl _) fun holds => ?_
    exact .ite (persists_evaluateChain h right rest) (.refl _)
end

/-- In a context that extends another one, an expression has the value that it has there, and the error that it has there
unless the error is that a name is missing, which that context does lack. -/
theorem evaluate_of_extends (h : d.Extends c) (e : Expr) :
    (∀ v, e.evaluate c = .ok v → e.evaluate d = .ok v) ∧
      ∀ err, e.evaluate c = .error err →
        e.evaluate d = .error err ∨ ∃ name, err = .undefinedName name ∧ c.get? name = none := by
  constructor
  · intro v hv
    rcases persists_evaluate h e with he | ⟨name, -, he⟩
    · rw [← he, hv]
    · rw [hv] at he
      cases he
  · intro err herr
    rcases persists_evaluate h e with he | ⟨name, hname, he⟩
    · exact .inl (by rw [← he, herr])
    · rw [herr] at he
      cases he
      exact .inr ⟨name, rfl, hname⟩

/-- What is known of a hidden panel. -/
def panelContext : Context :=
  .ofList [("hidden", .bool true), ("label", .str "Panel")]

/-- What is known of it once it has a width. -/
def sizedPanelContext : Context :=
  panelContext.set "width" (.number 10)

/-- A condition that does not come to ask the width. -/
def hiddenOrWide : Expr :=
  .or (.name "hidden") (.compare (.name "width") [(.greater, .literal (.number 3))])

/-- A list that fails at its first item, before the width is asked. -/
def unorderedThenWidth : Expr :=
  .list [.compare (.name "label") [(.less, .literal (.number 3)), (.less, .name "width")], .name "width"]

/-- The width changes neither the value of the condition nor the error of the list. -/
theorem evaluate_of_extends_panel :
    sizedPanelContext.Extends panelContext ∧ sizedPanelContext.get? "width" ≠ panelContext.get? "width" ∧
      hiddenOrWide.evaluate sizedPanelContext = .ok (.bool true) ∧
      unorderedThenWidth.evaluate sizedPanelContext = .error (.notOrdered "str" "number") := by
  have hextends : sizedPanelContext.Extends panelContext := Context.extends_set rfl _
  have hvalue : hiddenOrWide.evaluate panelContext = .ok (.bool true) := rfl
  have herror : unorderedThenWidth.evaluate panelContext = .error (.notOrdered "str" "number") := rfl
  refine ⟨hextends, ?_, ?_, ?_⟩
  · intro he
    cases he
  · exact (evaluate_of_extends hextends hiddenOrWide).1 _ hvalue
  · rcases (evaluate_of_extends hextends unorderedThenWidth).2 _ herror with he | ⟨name, he, -⟩
    · exact he
    · cases he

end Expr

end SceneMarkup.Rule
