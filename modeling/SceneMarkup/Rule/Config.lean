import SceneMarkup.Json.Decode
import SceneMarkup.Named
import SceneMarkup.Yaml.Basic

/-!
# Rule configurations

Two tables drive the layout: the layout rules, which choose the container of a frame and add attributes to controls, and
the mapping, which gives the names of alignments and the meaning of sizing modes. Both are read from JSON or YAML; a
`ConfigFormat` says how values of such a language are understood, and every record is decoded once for all formats.
-/

namespace SceneMarkup.Rule

/-! ## The tables -/

/-- The container that a rule names. -/
inductive ContainerType where
  | stackPanel | wrapPanel | grid | unknown
deriving DecidableEq, Repr

/-- The direction in which a container lays out its children. -/
inductive Orientation where
  | vertical | horizontal
deriving DecidableEq, Repr

/-- What a container rule decides. -/
structure ContainerDecision where
  containerType : ContainerType
  orientation : Option Orientation
  /-- A grid stands in for a stack, so that a child can take the space that is left. -/
  useGrid : Bool
  /-- The frame is a grid with tracks of its own. -/
  useGridLayout : Bool
  spaceBetween : Bool
deriving DecidableEq, Repr

/-- A rule that chooses a container. -/
structure ContainerRule where
  name : String
  condition : String
  result : ContainerDecision
deriving DecidableEq, Repr

/-- A rule that gives an attribute a value, which may hold placeholders. -/
structure AttributeRule where
  condition : String
  value : String
deriving DecidableEq, Repr

/-- The layout rules; those for attributes by control and attribute. -/
structure RuleConfig where
  containerRules : List ContainerRule
  attributeRules : NameMap (NameMap (List AttributeRule))
deriving DecidableEq, Repr

/-- The names of an alignment on the two axes. -/
structure AxisAlignment where
  horizontal : Option String
  vertical : Option String
deriving DecidableEq, Repr

/-- What a sizing mode means for a dimension. -/
structure SizingRule where
  setDimension : Bool
  stretch : Bool
deriving DecidableEq, Repr

/-- The mapping. -/
structure MappingConfig where
  counterAxis : NameMap AxisAlignment
  primaryAxis : NameMap AxisAlignment
  sizingMode : NameMap SizingRule
deriving DecidableEq, Repr

/-- The decision when no rule decides: a vertical stack. -/
def ContainerDecision.fallback : ContainerDecision :=
  ⟨.stackPanel, some .vertical, false, false, false⟩

/-- The orientation, where a decision without one has that of its container. -/
def ContainerDecision.orientationOrDefault (d : ContainerDecision) : Orientation :=
  d.orientation.getD <| match d.containerType with
    | .wrapPanel | .grid => .horizontal
    | .stackPanel | .unknown => .vertical

/-! ## Names in configurations -/

/-- The name of a container. -/
def ContainerType.name : ContainerType → String
  | .stackPanel => "StackPanel"
  | .wrapPanel => "WrapPanel"
  | .grid => "Grid"
  | .unknown => "Unknown"

/-- The container of a name. -/
def ContainerType.ofName (name : String) : ContainerType :=
  if name = "StackPanel" then .stackPanel
  else if name = "WrapPanel" then .wrapPanel
  else if name = "Grid" then .grid
  else .unknown

/-- The name of an orientation. -/
def Orientation.name : Orientation → String
  | .vertical => "Vertical"
  | .horizontal => "Horizontal"

/-- The orientation of a name. -/
def Orientation.ofName? (name : String) : Option Orientation :=
  if name = "Vertical" then some .vertical
  else if name = "Horizontal" then some .horizontal
  else none

/-! ## Decoding -/

/-- How the values of a configuration language are understood. -/
class ConfigFormat (α : Type) where
  /-- The text of a value where a text is needed. -/
  text : α → Decoder String
  /-- The truth value of a value. -/
  flag : α → Decoder Bool
  /-- The name of a choice. -/
  choice : α → Decoder String
  /-- The text of an expression, which may also be written as a truth value or a number. -/
  expression : α → Decoder String
  /-- The value of an optional field, unless it says that there is none. -/
  present : α → Decoder (Option α)
  /-- The items of a list. -/
  items : α → Decoder (List α)
  /-- The entries of a map from names. -/
  entries : α → Decoder (List (String × α))
  /-- The values of the fields of a record in the order of their names; each may be missing. -/
  record : List String → α → Decoder (List (Option α))

open ConfigFormat

variable {α : Type} [ConfigFormat α]

/-- A decoded value, or another one where there is no value. -/
def decodeOr {β : Type} (default : β) (decode : α → Decoder β) : Option α → Decoder β
  | none => return default
  | some v => decode v

/-- A decoded value of an optional field. -/
def decodeOptional {β : Type} (decode : α → Decoder β) : Option α → Decoder (Option β)
  | none => return none
  | some v => do (← present v).mapM decode

/-- A list of decoded items. -/
def decodeItems {β : Type} (decode : α → Decoder β) (v : α) : Decoder (List β) := do
  (← items v).mapM decode

/-- A map of decoded values. -/
def decodeMap {β : Type} (decode : α → Decoder β) (v : α) : Decoder (NameMap β) := do
  return NameMap.ofEntries (← (← entries v).mapM fun (name, v) => return (name, ← decode v))

/-- A decoded decision. -/
def ContainerDecision.decode (v : α) : Decoder ContainerDecision := do
  match ← record ["container_type", "orientation", "use_grid", "use_grid_layout", "space_between"] v with
  | [containerType, orientation, useGrid, useGridLayout, spaceBetween] =>
    return {
      containerType := ContainerType.ofName (← choice (← .ofOption containerType))
      orientation := ← decodeOptional (fun v => do .ofOption (Orientation.ofName? (← choice v))) orientation
      useGrid := ← decodeOr false flag useGrid
      useGridLayout := ← decodeOr false flag useGridLayout
      spaceBetween := ← decodeOr false flag spaceBetween }
  | _ => Decoder.ofOption none

/-- A decoded container rule. -/
def ContainerRule.decode (v : α) : Decoder ContainerRule := do
  match ← record ["name", "condition", "result"] v with
  | [name, condition, result] =>
    return {
      name := ← decodeOr "" text name
      condition := ← expression (← .ofOption condition)
      result := ← ContainerDecision.decode (← .ofOption result) }
  | _ => Decoder.ofOption none

/-- A decoded attribute rule. -/
def AttributeRule.decode (v : α) : Decoder AttributeRule := do
  match ← record ["condition", "value"] v with
  | [condition, value] => return ⟨← expression (← .ofOption condition), ← expression (← .ofOption value)⟩
  | _ => Decoder.ofOption none

/-- Decoded layout rules. -/
def RuleConfig.decode (v : α) : Decoder RuleConfig := do
  match ← record ["container_selection_rules", "attribute_rules"] v with
  | [containerRules, attributeRules] =>
    return {
      containerRules := ← decodeOr [] (decodeItems ContainerRule.decode) containerRules
      attributeRules := ← decodeOr [] (decodeMap (decodeMap (decodeItems AttributeRule.decode))) attributeRules }
  | _ => Decoder.ofOption none

/-- A decoded alignment. -/
def AxisAlignment.decode (v : α) : Decoder AxisAlignment := do
  match ← record ["horizontal", "vertical"] v with
  | [horizontal, vertical] => return ⟨← decodeOptional text horizontal, ← decodeOptional text vertical⟩
  | _ => Decoder.ofOption none

/-- A decoded sizing rule. -/
def SizingRule.decode (v : α) : Decoder SizingRule := do
  match ← record ["set_dimension", "stretch"] v with
  | [setDimension, stretch] => return ⟨← decodeOr false flag setDimension, ← decodeOr false flag stretch⟩
  | _ => Decoder.ofOption none

/-- The decoded alignments of the two axes, the counter axis first. -/
def decodeAlignments (v : α) : Decoder (NameMap AxisAlignment × NameMap AxisAlignment) := do
  match ← record ["counter_axis", "primary_axis"] v with
  | [counter, primary] =>
    return (← decodeOr [] (decodeMap AxisAlignment.decode) counter,
      ← decodeOr [] (decodeMap AxisAlignment.decode) primary)
  | _ => Decoder.ofOption none

/-- A decoded mapping. -/
def MappingConfig.decode (v : α) : Decoder MappingConfig := do
  match ← record ["alignment_mapping", "sizing_mode"] v with
  | [alignments, sizingMode] =>
    let (counterAxis, primaryAxis) ← decodeOr ([], []) decodeAlignments alignments
    return { counterAxis, primaryAxis, sizingMode := ← decodeOr [] (decodeMap SizingRule.decode) sizingMode }
  | _ => Decoder.ofOption none

/-- The text of an expression that is written as a JSON value. -/
def jsonExpression? : Json → Option String
  | .str s => some s
  | .bool b => some (if b then "true" else "false")
  | .num n => some (formatNumber n.toFloat)
  | _ => none

/-- A configuration in JSON means what it says: texts are strings, and null is a missing optional value. -/
instance : ConfigFormat Json where
  text v := .ofOption v.string?
  flag v := .ofOption v.bool?
  choice v := .ofOption v.choice?
  expression v := .ofOption (jsonExpression? v)
  present v := return if v.isNull then none else some v
  items v := .ofOption v.items?
  entries v := .ofOption v.fields?
  record names v := .ofOption (v.record? names)

/-- The layout rules of a JSON value. -/
def RuleConfig.ofJson? (v : Json) : Option RuleConfig :=
  (RuleConfig.decode v).within? 0

/-- The mapping of a JSON value. -/
def MappingConfig.ofJson? (v : Json) : Option MappingConfig :=
  (MappingConfig.decode v).within? 0

/-! ## Encoding -/

/-- The JSON form of a decision, which leaves out a missing orientation. -/
def ContainerDecision.toFields (d : ContainerDecision) : Fields :=
  [("container_type", .str d.containerType.name)] ++
    (d.orientation.map fun o => ("orientation", Json.str o.name)).toList ++
    [("use_grid", .bool d.useGrid), ("use_grid_layout", .bool d.useGridLayout), ("space_between", .bool d.spaceBetween)]

/-- The JSON form of a container rule. -/
def ContainerRule.toJson (r : ContainerRule) : Json :=
  .obj [("name", .str r.name), ("condition", .str r.condition), ("result", .obj r.result.toFields)]

/-- The JSON form of an attribute rule. -/
def AttributeRule.toJson (r : AttributeRule) : Json :=
  .obj [("condition", .str r.condition), ("value", .str r.value)]

/-- The JSON form of a map. -/
def mapToJson {β : Type} (encode : β → Json) (m : NameMap β) : Json :=
  .obj (m.map fun (name, v) => (name, encode v))

/-- The JSON form of layout rules. -/
def RuleConfig.toJson (c : RuleConfig) : Json :=
  .obj [("container_selection_rules", .arr (c.containerRules.map ContainerRule.toJson)),
    ("attribute_rules", mapToJson (mapToJson fun rules => .arr (rules.map AttributeRule.toJson)) c.attributeRules)]

/-- The JSON form of a text that may be missing. -/
def optionToJson (s : Option String) : Json :=
  (s.map Json.str).getD .null

/-- The JSON form of an alignment. -/
def AxisAlignment.toJson (a : AxisAlignment) : Json :=
  .obj [("horizontal", optionToJson a.horizontal), ("vertical", optionToJson a.vertical)]

/-- The JSON form of a sizing rule. -/
def SizingRule.toJson (r : SizingRule) : Json :=
  .obj [("set_dimension", .bool r.setDimension), ("stretch", .bool r.stretch)]

/-- The JSON form of a mapping. -/
def MappingConfig.toJson (m : MappingConfig) : Json :=
  .obj [("alignment_mapping",
      .obj [("counter_axis", mapToJson AxisAlignment.toJson m.counterAxis),
        ("primary_axis", mapToJson AxisAlignment.toJson m.primaryAxis)]),
    ("sizing_mode", mapToJson SizingRule.toJson m.sizingMode)]

end SceneMarkup.Rule
