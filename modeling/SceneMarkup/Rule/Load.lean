import SceneMarkup.Rule.Engine
import SceneMarkup.Scene.DefaultsFile

/-!
# Loading rules from YAML

An engine is loaded from the texts of two files, or from a directory that holds them. Both files must be there before either
is read, and the layout rules are read first.
-/

namespace SceneMarkup.Rule

/-- The name of the file with the layout rules. -/
def rulesFile : String := "layout_rules.yaml"

/-- The name of the file with the mapping. -/
def mappingFile : String := "mapping.yaml"

/-- The configuration that a text stands for. -/
def readConfig {β : Type} (decode : YamlNode → Decoder β) (source text : String) : Except SceneError β :=
  match (YamlNode.read? text).bind fun root => (decode root).within? root.budget with
  | some config => .ok config
  | none => .error (.unreadable source)

namespace Engine

/-- The engine of two texts that come from files of given names. -/
def ofTexts (rulesSource mappingSource rules mapping : String) : Outcome Engine := do
  let config ← readConfig RuleConfig.decode rulesSource rules
  let mapping ← readConfig MappingConfig.decode mappingSource mapping
  (compile config mapping : Logged Engine)

/-- The engine of two YAML texts. -/
def ofYaml (rules mapping : String) : Outcome Engine :=
  ofTexts rulesFile mappingFile rules mapping

/-- The engine of the files in a directory. -/
def ofDirectory (d : Directory) : Outcome Engine := do
  let rules ← d.required rulesFile
  let mapping ← d.required mappingFile
  ofTexts (d.source rulesFile) (d.source mappingFile) rules mapping

end Engine

end SceneMarkup.Rule
