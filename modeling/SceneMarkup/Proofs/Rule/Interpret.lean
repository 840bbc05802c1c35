import SceneMarkup.Proofs.Rule.Compile

/-!
# Rules without an engine

What a configuration decides can be said without compiling it: its rules are tried in their order, and the condition of each
is parsed where it is met (`RuleConfig.containerFor`, `RuleConfig.attributeFor?`). The engine of the configuration decides
the same (`Engine.compile_decides`), so keeping the parsed conditions apart from the rules loses and mixes up none of them.
-/

namespace SceneMarkup.Rule

/-- The condition that a text is holds: the text is an expression, and the expression has a value that counts as true. -/
def holdsAsText (c : Context) (source : String) : Bool :=
  match Expr.parse source with
  | .error _ => false
  | .ok e =>
    match e.evaluate c with
    | .error _ => false
    | .ok v => v.isTruthy

namespace RuleConfig

/-- The first container rule whose condition holds. -/
def containerRuleFor? (config : RuleConfig) (c : Context) : Option ContainerRule :=
  config.containerRules.find? fun r => holdsAsText c r.condition

/-- The decision for a frame: that of the first rule whose condition holds, and a vertical stack if there is no such rule or
if it names an unknown container. -/
def containerFor (config : RuleConfig) (c : Context) : ContainerDecision :=
  match config.containerRuleFor? c with
  | none => .fallback
  | some r => if r.result.containerType = .unknown then .fallback else r.result

/-- The value of an attribute: that of the first rule whose condition holds, with its placeholders filled. -/
def attributeFor? (config : RuleConfig) (control name : String) (c : Context) : Option String :=
  ((config.rulesFor control name).find? fun r => holdsAsText c r.condition).map fun r => (renderTemplate r.value c).value

end RuleConfig

/-- A parsed condition holds if the condition holds as a text. -/
theorem Condition.value_holds_ofSource (source : String) (c : Context) :
    ((Condition.ofSource source).holds c).value = holdsAsText c source := by
  unfold ofSource holds holdsAsText
  cases hp : Expr.parse source with
  | error err =>
    have hsource : parseSource source = .error (.parse err) := congrArg (Except.mapError ExpressionError.parse) hp
    rw [hsource]
    rfl
  | ok e =>
    have hsource : parseSource source = .ok e := congrArg (Except.mapError ExpressionError.parse) hp
    cases he : e.evaluate c with
    | error err =>
      have hvalue : evaluateExpr e c = .error (.eval err) := congrArg (Except.mapError ExpressionError.eval) he
      simp only [hsource, hvalue, he]
      rfl
    | ok v =>
      have hvalue : evaluateExpr e c = .ok v := congrArg (Except.mapError ExpressionError.eval) he
      simp only [hsource, hvalue, he]
      rfl

/-- Of rules with parsed conditions the first one counts whose condition holds as a text. -/
theorem value_firstMatch_map {α : Type} (condition : α → String) (rules : List α) (c : Context) :
    (firstMatch c (rules.map fun r => ⟨r, .ofSource (condition r)⟩)).value =
      rules.find? fun r => holdsAsText c (condition r) := by
  induction rules with
  | nil => rfl
  | cons r rest ih =>
    have hr := Condition.value_holds_ofSource (condition r) c
    rw [List.map_cons, firstMatch, Logged.value_bind, hr, List.find?_cons]
    cases holdsAsText c (condition r) with
    | true => rfl
    | false => exact ih

namespace Engine

/-- The engine of a configuration decides what the configuration decides when its rules are tried in their order and each
condition is parsed where it is met. -/
theorem compile_decides (config : RuleConfig) (mapping : MappingConfig) (c : Context) :
    ((compile config mapping).value.selectContainer c).value = config.containerFor c ∧
      ∀ control name,
        ((compile config mapping).value.attributeValue? control name c).value = config.attributeFor? control name c := by
  constructor
  · have hrule : ((compile config mapping).value.selectRule c).value = config.containerRuleFor? c := by
      rw [selectRule, containerRules_compile]
      exact value_firstMatch_map ContainerRule.condition config.containerRules c
    unfold selectContainer RuleConfig.containerFor
    rw [Logged.value_bind, hrule]
    cases config.containerRuleFor? c with
    | none => rfl
    | some r => by_cases hr : r.result.containerType = .unknown <;> simp [hr]
  · intro control name
    have hrule : (firstMatch c ((compile config mapping).value.rulesFor control name)).value =
        (config.rulesFor control name).find? fun r => holdsAsText c r.condition := by
      rw [rulesFor_compile]
      exact value_firstMatch_map AttributeRule.condition (config.rulesFor control name) c
    unfold attributeValue? RuleConfig.attributeFor?
    rw [Logged.value_bind, hrule]
    cases (config.rulesFor control name).find? fun r => holdsAsText c r.condition <;> rfl

end Engine

end SceneMarkup.Rule
