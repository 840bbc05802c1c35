import SceneMarkup.Rule.Engine

/-!
# What compiling makes of a configuration

The engine of a configuration keeps the conditions apart from the rules (`Engine.value_compile`). Still every rule is tried
with its own condition, parsed: in a list both have the same place (`Engine.containerRules_compile`), and the table has for
each attribute of a control the conditions of its rules and of no others (`Engine.rulesFor_compile`).
-/

namespace SceneMarkup

/-- A value that a name has stands under the name. -/
theorem NameMap.mem_of_get? {α : Type} {m : NameMap α} {name : String} {a : α} (h : m.get? name = some a) :
    (name, a) ∈ m := by
  obtain ⟨before, behind, he, -⟩ := List.lookup_eq_some_iff.1 h
  simp [he]

namespace Rule

/-- The condition that a text is, if it is an expression. -/
def Condition.ofSource (source : String) : Condition :=
  ⟨source, parseSource source⟩

/-- A condition is compiled by parsing its text. -/
theorem Condition.value_compile (source owner : String) : (Condition.compile source owner).value = .ofSource source := by
  unfold compile ofSource
  cases parseSource source <;> rfl

/-- Rules stand at the places of the conditions that are made from them. -/
theorem withConditions_map {α : Type} (rules : List α) (condition : α → Condition) :
    withConditions rules (rules.map condition) = rules.map fun r => ⟨r, condition r⟩ := by
  unfold withConditions
  rw [List.zipWith_map_right, List.zipWith_self]

namespace RuleConfig

/-- The rules that a table has for an attribute. -/
def rulesOf (config : RuleConfig) (control name : String) : List AttributeRule :=
  ((config.attributeRules.get? control).bind (·.get? name)).getD []

/-- The rules that count for an attribute of a control: its own, or those for all controls where it has none. -/
def rulesFor (config : RuleConfig) (control name : String) : List AttributeRule :=
  match config.rulesOf control name with
  | [] => config.rulesOf Engine.commonControl name
  | own => own

/-- The rules of a table are among those of the configuration. -/
theorem exists_of_mem_rulesOf {config : RuleConfig} {control name : String} {r : AttributeRule}
    (h : r ∈ config.rulesOf control name) : ∃ m ∈ config.attributeRules, ∃ p ∈ m.2, r ∈ p.2 := by
  unfold rulesOf at h
  cases hrules : (config.attributeRules.get? control).bind (·.get? name) with
  | none => simp [hrules] at h
  | some rules =>
    rw [hrules, Option.getD_some] at h
    obtain ⟨attributes, hm, hp⟩ := Option.bind_eq_some_iff.1 hrules
    exact ⟨_, NameMap.mem_of_get? hm, _, NameMap.mem_of_get? hp, h⟩

/-- The rules that count for an attribute are among those of the configuration. -/
theorem exists_of_mem_rulesFor {config : RuleConfig} {control name : String} {r : AttributeRule}
    (h : r ∈ config.rulesFor control name) : ∃ m ∈ config.attributeRules, ∃ p ∈ m.2, r ∈ p.2 := by
  unfold rulesFor at h
  split at h
  · exact exists_of_mem_rulesOf h
  · exact exists_of_mem_rulesOf h

end RuleConfig

namespace Engine

/-- A container rule with its condition. -/
def compiledContainer (r : ContainerRule) : Compiled ContainerRule :=
  ⟨r, .ofSource r.condition⟩

/-- An attribute rule with its condition. -/
def compiledAttribute (r : AttributeRule) : Compiled AttributeRule :=
  ⟨r, .ofSource r.condition⟩

/-! ## Conditions -/

/-- The conditions of the rules of an attribute. -/
def conditionsOf (rules : List AttributeRule) : List Condition :=
  rules.map fun r => .ofSource r.condition

/-- The conditions of the attributes of a control. -/
def tableOf (control : String) (attributes : NameMap (List AttributeRule)) : ConditionTable :=
  attributes.map fun p => ((control, p.1), conditionsOf p.2)

/-- Every container rule is compiled by itself. -/
theorem value_compileContainers (rules : List ContainerRule) (index : Nat) :
    (compileContainers index rules).value = rules.map fun r => .ofSource r.condition := by
  induction rules generalizing index with
  | nil => rfl
  | cons r rest ih =>
    simp only [compileContainers, Logged.value_bind, Logged.value_pure, Condition.value_compile, ih, List.map_cons]

/-- Every rule of an attribute is compiled by itself. -/
theorem value_compileAttribute (owner : String) (rules : List AttributeRule) :
    (compileAttribute owner rules).value = conditionsOf rules := by
  unfold conditionsOf
  induction rules with
  | nil => rfl
  | cons r rest ih =>
    simp only [compileAttribute, Logged.value_bind, Logged.value_pure, Condition.value_compile, ih, List.map_cons]

/-- Every attribute of a control is compiled by itself. -/
theorem value_compileControl (control : String) (attributes : NameMap (List AttributeRule)) :
    (compileControl control attributes).value = tableOf control attributes := by
  unfold tableOf
  induction attributes with
  | nil => rfl
  | cons p rest ih =>
    simp only [compileControl, Logged.value_bind, Logged.value_pure, value_compileAttribute, ih, List.map_cons]

/-- Every control is compiled by itself. -/
theorem value_compileControls (controls : NameMap (NameMap (List AttributeRule))) :
    (compileControls controls).value = controls.flatMap fun m => tableOf m.1 m.2 := by
  induction controls with
  | nil => rfl
  | cons m rest ih =>
    simp only [compileControls, Logged.value_bind, Logged.value_pure, value_compileControl, ih, List.flatMap_cons]

/-- The engine of a configuration has it and the conditions of its rules. -/
theorem value_compile (config : RuleConfig) (mapping : MappingConfig) :
    (compile config mapping).value =
      ⟨config, mapping, config.containerRules.map fun r => .ofSource r.condition,
        config.attributeRules.flatMap fun m => tableOf m.1 m.2⟩ := by
  simp only [compile, Logged.value_bind, Logged.value_pure, value_compileContainers, value_compileControls]

/-! ## Rules with their conditions -/

/-- In the conditions of a control those of an attribute stand under its name. -/
theorem lookup_tableOf (control name : String) (attributes : NameMap (List AttributeRule)) :
    (tableOf control attributes).lookup (control, name) = (attributes.get? name).map conditionsOf := by
  unfold tableOf NameMap.get?
  induction attributes with
  | nil => rfl
  | cons p rest ih =>
    rw [List.map_cons, List.lookup_cons, List.lookup_cons]
    have hkey : ((control, name) == (control, p.1)) = (name == p.1) := by
      change (control == control && name == p.1) = (name == p.1)
      rw [beq_self_eq_true, Bool.true_and]
    rw [hkey]
    cases name == p.1 with
    | true => rfl
    | false => exact ih

/-- In the conditions of a control nothing stands under another one. -/
theorem lookup_tableOf_ne {control other : String} (h : control ≠ other) (name : String)
    (attributes : NameMap (List AttributeRule)) : (tableOf other attributes).lookup (control, name) = none := by
  unfold tableOf
  rw [List.lookup_eq_none_iff]
  intro p hp
  obtain ⟨q, -, rfl⟩ := List.mem_map.1 hp
  rw [bne_iff_ne]
  intro hkey
  exact h (congrArg Prod.fst hkey)

/-- In the conditions of all controls those of an attribute of a control stand under both names, whatever other controls have. -/
theorem lookup_flatMap_tableOf {controls : NameMap (NameMap (List AttributeRule))} {control name : String}
    {rules : List AttributeRule} (h : (controls.get? control).bind (·.get? name) = some rules) :
    (controls.flatMap fun m => tableOf m.1 m.2).lookup (control, name) = some (conditionsOf rules) := by
  obtain ⟨attributes, ha, hr⟩ := Option.bind_eq_some_iff.1 h
  clear h
  induction controls with
  | nil => nomatch ha
  | cons m rest ih =>
    obtain ⟨other, table⟩ := m
    unfold NameMap.get? at ha ih
    rw [List.lookup_cons] at ha
    rw [List.flatMap_cons, List.lookup_append]
    by_cases hother : control = other
    · subst hother
      rw [beq_self_eq_true] at ha
      obtain rfl : table = attributes := Option.some.inj ha
      rw [lookup_tableOf, hr]
      rfl
    · rw [beq_eq_false_iff_ne.2 hother] at ha
      rw [lookup_tableOf_ne hother, Option.none_or]
      exact ih ha

variable (config : RuleConfig) (mapping : MappingConfig) (control name : String)

/-- The engine of a configuration tries every container rule with its condition. -/
theorem containerRules_compile :
    (compile config mapping).value.containerRules = config.containerRules.map compiledContainer := by
  rw [value_compile]
  exact withConditions_map config.containerRules fun r => .ofSource r.condition

/-- The engine of a configuration has the rules of the configuration for an attribute of a control, each with its condition,
unless there are none. -/
theorem ownRules?_compile :
    (compile config mapping).value.ownRules? control name =
      if config.rulesOf control name = [] then none else some ((config.rulesOf control name).map compiledAttribute) := by
  rw [value_compile]
  unfold ownRules? RuleConfig.rulesOf
  cases hrules : (config.attributeRules.get? control).bind (·.get? name) with
  | none => simp
  | some rules =>
    cases rules with
    | nil => simp
    | cons r rest =>
      have hpaired : withConditions (r :: rest) (conditionsOf (r :: rest)) = (r :: rest).map compiledAttribute :=
        withConditions_map (r :: rest) fun r => .ofSource r.condition
      simp [lookup_flatMap_tableOf hrules, hpaired]

/-- The engine of a configuration tries the rules that count in the configuration, in their order and each with its
condition. -/
theorem rulesFor_compile :
    (compile config mapping).value.rulesFor control name = (config.rulesFor control name).map compiledAttribute := by
  unfold rulesFor RuleConfig.rulesFor
  rw [ownRules?_compile, ownRules?_compile]
  cases config.rulesOf control name with
  | cons r rest => rfl
  | nil => cases config.rulesOf commonControl name <;> rfl

end Engine

end Rule

end SceneMarkup
