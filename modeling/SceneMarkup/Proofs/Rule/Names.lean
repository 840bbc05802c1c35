import SceneMarkup.Proofs.Rule.Compile

/-!
# The names that rules ask

An expression depends on its context only in the names that it mentions (`Expr.evaluate_congr`), and so do conditions,
templates and the attributes that rules give (`Engine.attributeValue?_congr`). What is decided for a frame is the result of a
rule whose condition holds, or the fallback (`Engine.selectContainer_cases`).
-/

namespace SceneMarkup.Rule

variable {c d : Context}

/-! ## Expressions -/

namespace Expr

mutual
/-- The names that an expression mentions. -/
def names : Expr → List String
  | .literal _ => []
  | .name n => [n]
  | .list items => namesOfItems items
  | .not e => e.names
  | .negate e => e.names
  | .arith _ a b => a.names ++ b.names
  | .compare first rest => first.names ++ namesOfChain rest
  | .and a b => a.names ++ b.names
  | .or a b => a.names ++ b.names

/-- The names that the items of a list mention. -/
def namesOfItems : List Expr → List String
  | [] => []
  | e :: rest => e.names ++ namesOfItems rest

/-- The names that the further operands of a comparison mention. -/
def namesOfChain : List (CompareOp × Expr) → List String
  | [] => []
  | (_, e) :: rest => e.names ++ namesOfChain rest
end

mutual
/-- An expression has the same value in contexts that give its names the same values. -/
theorem evaluate_congr : (e : Expr) → (∀ x ∈ e.names, c.get? x = d.get? x) → e.evaluate c = e.evaluate d
  | .literal _, _ => by simp only [evaluate]
  | .name n, h => by
    rw [names, List.forall_mem_singleton] at h
    simp only [evaluate, h]
  | .list items, h => by
    rw [names] at h
    simp only [evaluate, evaluateItems_congr items h]
  | .not e, h => by
    rw [names] at h
    simp only [evaluate, evaluate_congr e h]
  | .negate e, h => by
    rw [names] at h
    simp only [evaluate, evaluate_congr e h]
  | .arith op a b, h => by
    rw [names, List.forall_mem_append] at h
    simp only [evaluate, evaluate_congr a h.1, evaluate_congr b h.2]
  | .compare first rest, h => by
    rw [names, List.forall_mem_append] at h
    simp only [evaluate, evaluate_congr first h.1, evaluateChain_congr rest h.2]
  | .and a b, h => by
    rw [names, List.forall_mem_append] at h
    simp only [evaluate, evaluate_congr a h.1, evaluate_congr b h.2]
  | .or a b, h => by
    rw [names, List.forall_mem_append] at h
    simp only [evaluate, evaluate_congr a h.1, evaluate_congr b h.2]

/-- The items of a list have the same values in contexts that give their names the same values. -/
theorem evaluateItems_congr : (items : List Expr) → (∀ x ∈ namesOfItems items, c.get? x = d.get? x) →
    evaluateItems c items = evaluateItems d items
  | [], _ => by simp only [evaluateItems]
  | e :: rest, h => by
    rw [namesOfItems, List.forall_mem_append] at h
    simp only [evaluateItems, evaluate_congr e h.1, evaluateItems_congr rest h.2]

/-- A comparison goes on alike in contexts that give its names the same values. -/
theorem evaluateChain_congr : (rest : List (CompareOp × Expr)) → (∀ x ∈ namesOfChain rest, c.get? x = d.get? x) →
    ∀ left, evaluateChain c left rest = evaluateChain d left rest
  | [], _, _ => by simp only [evaluateChain]
  | (op, e) :: rest, h, left => by
    rw [namesOfChain, List.forall_mem_append] at h
    simp only [evaluateChain, evaluate_congr e h.1, evaluateChain_congr rest h.2]
end

end Expr

/-- The names that a text mentions, if it is an expression. -/
def namesOfSource (source : String) : List String :=
  match parseSource source with
  | .ok e => e.names
  | .error _ => []

/-- The expression that a text is has the same value in contexts that give its names the same values. -/
theorem evaluateSource_congr {source : String} (h : ∀ x ∈ namesOfSource source, c.get? x = d.get? x) :
    evaluateSource source c = evaluateSource source d := by
  unfold namesOfSource at h
  unfold evaluateSource evaluateExpr
  cases hp : parseSource source with
  | error e => rfl
  | ok e =>
    rw [hp] at h
    simp only [Except.bind, bind, e.evaluate_congr h]

/-! ## Conditions and templates -/

/-- The names that a condition mentions. -/
def Condition.names (p : Condition) : List String :=
  match p.compiled with
  | .ok e => e.names
  | .error _ => []

/-- A condition holds alike in contexts that give its names the same values. -/
theorem Condition.holds_congr {p : Condition} (h : ∀ x ∈ p.names, c.get? x = d.get? x) : p.holds c = p.holds d := by
  unfold names at h
  unfold holds evaluateExpr
  cases hp : p.compiled with
  | error e => rfl
  | ok e =>
    rw [hp] at h
    simp only [e.evaluate_congr h]

/-- The names that the placeholders of a template mention. -/
def Segment.names : Segment → List String
  | .text _ => []
  | .placeholder cs => namesOfSource (String.ofList (trimBlank cs))

/-- The names that a template mentions. -/
def namesOfTemplate (template : String) : List String :=
  (Segment.split none template.toList).flatMap Segment.names

/-- A segment is filled alike in contexts that give its names the same values. -/
theorem Segment.fill_congr {s : Segment} (h : ∀ x ∈ s.names, c.get? x = d.get? x) : s.fill c = s.fill d := by
  cases s with
  | text cs => rfl
  | placeholder cs =>
    have hs : evaluateSource (String.ofList (trimBlank cs)) c = evaluateSource (String.ofList (trimBlank cs)) d :=
      evaluateSource_congr h
    simp only [fill, hs]

/-- A template has the same text in contexts that give its names the same values. -/
theorem renderTemplate_congr {template : String} (h : ∀ x ∈ namesOfTemplate template, c.get? x = d.get? x) :
    renderTemplate template c = renderTemplate template d := by
  have hfill : ∀ segments : List Segment, (∀ s ∈ segments, ∀ x ∈ s.names, c.get? x = d.get? x) →
      Segment.fillAll c segments = Segment.fillAll d segments := by
    intro segments hs
    induction segments with
    | nil => rfl
    | cons s rest ih =>
      rw [List.forall_mem_cons] at hs
      unfold Segment.fillAll
      rw [Segment.fill_congr hs.1, ih hs.2]
  unfold namesOfTemplate at h
  simp only [List.forall_mem_flatMap] at h
  unfold renderTemplate
  rw [hfill _ h]

/-! ## Rules -/

/-- The first of some rules is the same in contexts in which their conditions hold alike. -/
theorem firstMatch_congr {α : Type} {rules : List (Compiled α)}
    (h : ∀ r ∈ rules, ∀ x ∈ r.condition.names, c.get? x = d.get? x) : firstMatch c rules = firstMatch d rules := by
  induction rules with
  | nil => rfl
  | cons r rest ih =>
    rw [List.forall_mem_cons] at h
    unfold firstMatch
    rw [Condition.holds_congr h.1, ih h.2]

/-- The condition of the first rule that holds does hold. -/
theorem exists_of_firstMatch {α : Type} {rules : List (Compiled α)} {a : α} (h : (firstMatch c rules).value = some a) :
    ∃ r ∈ rules, r.rule = a ∧ (r.condition.holds c).value = true := by
  induction rules with
  | nil => nomatch h
  | cons r rest ih =>
    unfold firstMatch at h
    rw [Logged.value_bind] at h
    cases hr : (r.condition.holds c).value with
    | true =>
      simp only [hr, if_true, Logged.value_pure, Option.some.injEq] at h
      exact ⟨r, List.mem_cons_self, h, hr⟩
    | false =>
      simp only [hr] at h
      obtain ⟨s, hs, hrest⟩ := ih h
      exact ⟨s, List.mem_cons_of_mem r hs, hrest⟩

namespace Engine

/-- What the rules decide is the fallback, or the result of a rule whose condition holds. -/
theorem selectContainer_cases (g : Engine) (c : Context) :
    (g.selectContainer c).value = .fallback ∨
      ∃ r ∈ g.containerRules, (r.condition.holds c).value = true ∧ (g.selectContainer c).value = r.rule.result := by
  unfold selectContainer selectRule
  rw [Logged.value_bind]
  cases hm : (firstMatch c g.containerRules).value with
  | none => exact .inl rfl
  | some rule =>
    obtain ⟨r, hr, rfl, hholds⟩ := exists_of_firstMatch hm
    by_cases hunknown : r.rule.result.containerType = .unknown
    · exact .inl (by simp [hunknown])
    · exact .inr ⟨r, hr, hholds, by simp [hunknown]⟩

/-- What the first rule whose condition holds says is decided, if it names a container. -/
theorem value_selectContainer_of_firstMatch {g : Engine} {d : ContainerDecision}
    (h : (firstMatch c g.containerRules).value.map ContainerRule.result = some d) (hknown : d.containerType ≠ .unknown) :
    (g.selectContainer c).value = d := by
  obtain ⟨rule, hrule, rfl⟩ := Option.map_eq_some_iff.1 h
  unfold selectContainer selectRule
  rw [Logged.value_bind, hrule]
  simp [hknown]

/-- The names of the attributes for which there are rules are those of the configuration. -/
theorem exists_of_mem_attributeNames {g : Engine} {control name : String} (h : name ∈ g.attributeNames control) :
    ∃ m ∈ g.config.attributeRules, ∃ p ∈ m.2, p.1 = name := by
  have hown : ∀ other, name ∈ g.ownNames other → ∃ m ∈ g.config.attributeRules, ∃ p ∈ m.2, p.1 = name := by
    intro other hname
    unfold ownNames at hname
    cases htable : g.config.attributeRules.get? other with
    | none => simp [htable] at hname
    | some attributes =>
      rw [htable, Option.getD_some, List.mem_map] at hname
      exact ⟨_, NameMap.mem_of_get? htable, hname⟩
  rcases List.mem_append.1 h with h | h
  · exact hown control h
  · exact hown commonControl (List.mem_filter.1 h).1

/-- The names that the rules for an attribute of a control mention. -/
def namesAsked (g : Engine) (control name : String) : List String :=
  (g.rulesFor control name).flatMap fun r => r.condition.names ++ namesOfTemplate r.rule.value

/-- The rules give an attribute the same value in contexts that give their names the same values. -/
theorem attributeValue?_congr {g : Engine} {control name : String}
    (h : ∀ x ∈ g.namesAsked control name, c.get? x = d.get? x) :
    (g.attributeValue? control name c).value = (g.attributeValue? control name d).value := by
  simp only [namesAsked, List.forall_mem_flatMap, List.forall_mem_append] at h
  unfold attributeValue?
  rw [Logged.value_bind, Logged.value_bind, firstMatch_congr fun r hr => (h r hr).1]
  cases hm : (firstMatch d (g.rulesFor control name)).value with
  | none => rfl
  | some rule =>
    obtain ⟨r, hr, rfl, -⟩ := exists_of_firstMatch hm
    simp only [Logged.value_bind, Logged.value_pure, renderTemplate_congr (h r hr).2]

/-- The rules lay out only grids in grids of their own, and no attribute rule depends on the spacing of the parent. -/
structure Discreet (g : Engine) : Prop where
  grid : ∀ c, (g.selectContainer c).value.useGridLayout = true → c.get? "layout_mode" = some (.str "GRID")
  spacing : ∀ control name, "parent_spacing" ∉ g.namesAsked control name

end Engine

end SceneMarkup.Rule
