import SceneMarkup.Rule.Config
import SceneMarkup.Rule.Template

/-!
# The rule engine

An engine holds layout rules and a mapping, and beside the rules their compiled conditions: those of the container rules in
one list, and those of the attribute rules in a table by control and attribute. Of the rules that apply the first one whose
condition holds counts. A condition that cannot be compiled never holds, and one that has no value does not hold; both are
reported in the log and stop nothing.
-/

namespace SceneMarkup.Rule

/-- A condition: its text and the expression that it is, if it is one. -/
structure Condition where
  source : String
  compiled : Except ExpressionError Expr

namespace Condition

/-- The compiled condition of a rule that is known as `owner`. -/
def compile (source owner : String) : Logged Condition :=
  match parseSource source with
  | .ok e => pure ⟨source, .ok e⟩
  | .error e => do
    Logged.warn ("rule '" ++ owner ++ "' has an invalid condition and will never match: " ++ (e.of source).message)
    return ⟨source, .error e⟩

/-- The condition holds in a context. -/
def holds (p : Condition) (c : Context) : Logged Bool :=
  match p.compiled with
  | .error _ => pure false
  | .ok e =>
    match evaluateExpr e c with
    | .ok v => pure v.isTruthy
    | .error err => do
      Logged.warn ("rule condition treated as non-match: " ++ (err.of p.source).message)
      return false

end Condition

/-- A rule with its compiled condition. -/
structure Compiled (α : Type) where
  rule : α
  condition : Condition

/-- Rules with the conditions that stand at their places in another list. -/
def withConditions {α : Type} (rules : List α) (conditions : List Condition) : List (Compiled α) :=
  List.zipWith Compiled.mk rules conditions

/-- The first rule whose condition holds. -/
def firstMatch {α : Type} (c : Context) : List (Compiled α) → Logged (Option α)
  | [] => pure none
  | r :: rest => do
    if ← r.condition.holds c then return some r.rule else firstMatch c rest

/-- The axis of an auto layout along which it aligns its children. -/
inductive AlignAxis where
  | counter | primary
deriving DecidableEq, Repr

/-- The compiled conditions of attribute rules, by control and attribute. -/
abbrev ConditionTable := List ((String × String) × List Condition)

/-- The engine. -/
structure Engine where
  config : RuleConfig
  mapping : MappingConfig
  /-- The conditions of the container rules, in the order of the rules. -/
  containerConditions : List Condition
  /-- The conditions of the attribute rules, for each attribute of a control in the order of its rules. -/
  attributeConditions : ConditionTable

namespace Engine

/-- Attribute rules of this control apply to every control without rules of its own for the attribute. -/
def commonControl : String := "Common"

/-! ## Compiling -/

/-- The name of a container rule in messages: its own, or its place. -/
def containerOwner (index : Nat) (r : ContainerRule) : String :=
  if r.name = "" then "container rule #" ++ toString index else r.name

/-- The compiled conditions of container rules, where the first one has a given place. -/
def compileContainers : (index : Nat) → List ContainerRule → Logged (List Condition)
  | _, [] => pure []
  | index, r :: rest => do
    let condition ← Condition.compile r.condition (containerOwner index r)
    return condition :: (← compileContainers (index + 1) rest)

/-- The compiled conditions of the rules of one attribute, known as `owner`. -/
def compileAttribute (owner : String) : List AttributeRule → Logged (List Condition)
  | [] => pure []
  | r :: rest => do
    let condition ← Condition.compile r.condition owner
    return condition :: (← compileAttribute owner rest)

/-- The compiled conditions of the attributes of one control. -/
def compileControl (control : String) : NameMap (List AttributeRule) → Logged ConditionTable
  | [] => pure []
  | (name, rules) :: rest => do
    let conditions ← compileAttribute (control ++ "." ++ name) rules
    return ((control, name), conditions) :: (← compileControl control rest)

/-- The compiled conditions of the attributes of all controls. -/
def compileControls : NameMap (NameMap (List AttributeRule)) → Logged ConditionTable
  | [] => pure []
  | (control, attributes) :: rest => do
    let conditions ← compileControl control attributes
    return conditions ++ (← compileControls rest)

/-- The engine of some layout rules and a mapping. -/
def compile (config : RuleConfig) (mapping : MappingConfig) : Logged Engine := do
  let containerConditions ← compileContainers 0 config.containerRules
  let attributeConditions ← compileControls config.attributeRules
  return { config, mapping, containerConditions, attributeConditions }

/-! ## Container rules -/

/-- The container rules with their conditions. -/
def containerRules (g : Engine) : List (Compiled ContainerRule) :=
  withConditions g.config.containerRules g.containerConditions

/-- The first container rule whose condition holds. -/
def selectRule (g : Engine) (c : Context) : Logged (Option ContainerRule) :=
  firstMatch c g.containerRules

/-- The decision for a frame. -/
def selectContainer (g : Engine) (c : Context) : Logged ContainerDecision := do
  match ← g.selectRule c with
  | none =>
    Logged.debug "no container rule matched, using vertical stack"
    return .fallback
  | some r =>
    if r.result.containerType = .unknown then
      Logged.warn ("container rule '" ++ r.name ++ "' names an unknown container type, using vertical stack")
      return .fallback
    else
      Logged.debug ("container rule '" ++ r.name ++ "' matched")
      return r.result

/-! ## Attribute rules -/

/-- The rules that a control has of its own for an attribute, if there are any. -/
def ownRules? (g : Engine) (control name : String) : Option (List (Compiled AttributeRule)) :=
  match (g.config.attributeRules.get? control).bind (·.get? name) with
  | none | some [] => none
  | some rules => (g.attributeConditions.lookup (control, name)).map (withConditions rules)

/-- The rules for an attribute of a control: its own, or those for all controls. -/
def rulesFor (g : Engine) (control name : String) : List (Compiled AttributeRule) :=
  ((g.ownRules? control name).or (g.ownRules? commonControl name)).getD []

/-- The value of an attribute of a control, if a rule gives it one. -/
def attributeValue? (g : Engine) (control name : String) (c : Context) : Logged (Option String) := do
  match ← firstMatch c (g.rulesFor control name) with
  | some r => return some (← renderTemplate r.value c)
  | none => return none

/-- The names of the attributes for which a control has rules. -/
def ownNames (g : Engine) (control : String) : List String :=
  ((g.config.attributeRules.get? control).getD []).map (·.1)

/-- The names of the attributes for which there are rules that may apply to a control: those of its own first. -/
def attributeNames (g : Engine) (control : String) : List String :=
  let own := g.ownNames control
  own ++ (g.ownNames commonControl).filter fun name => !own.contains name

/-! ## Mapping -/

/-- The name of an alignment on the axis of a direction. -/
def alignment (g : Engine) (axis : AlignAxis) (value : String) (direction : Orientation) : String :=
  let table := match axis with
    | .counter => g.mapping.counterAxis
    | .primary => g.mapping.primaryAxis
  let entry := table.get? value
  match direction with
  | .horizontal => (entry.bind (·.horizontal)).getD "Left"
  | .vertical => (entry.bind (·.vertical)).getD "Top"

/-- A dimension of this sizing mode is set. -/
def setsDimension (g : Engine) (mode : String) : Bool :=
  ((g.mapping.sizingMode.get? mode).map (·.setDimension)).getD false

/-- A dimension of this sizing mode takes the space there is. -/
def stretches (g : Engine) (mode : String) : Bool :=
  ((g.mapping.sizingMode.get? mode).map (·.stretch)).getD false

end Engine

end SceneMarkup.Rule
