import SceneMarkup.Json.Reader
import SceneMarkup.Scene.Defaults
import SceneMarkup.Yaml.Format

/-!
# Files of a configuration

Configurations are read from files. A directory stands for what can be read in it, so that reading a configuration is a
function of the texts of its files. A default table is kept in a file that is YAML if its name says so and JSON otherwise.
-/

namespace SceneMarkup

/-! ## Directories -/

/-- A directory: the texts of the files in it by name. -/
structure Directory where
  /-- What stands before the names of its files in messages. -/
  path : String
  file? : String → Option String

namespace Directory

/-- The directory of some files. -/
def ofFiles (path : String) (files : List (String × String)) : Directory :=
  ⟨path, fun name => files.lookup name⟩

/-- The name of a file in messages. -/
def source (d : Directory) (name : String) : String :=
  d.path ++ name

/-- The text of a configuration file, which must be there. -/
def required (d : Directory) (name : String) : Except SceneError String :=
  match d.file? name with
  | some text => .ok text
  | none => .error (.config (d.source name) "configuration file not found")

end Directory

/-- The extension of a file's name: what follows the last dot, unless nothing is before that dot. -/
def fileExtension? (name : String) : Option String :=
  let cs := (name.toList.reverse.takeWhile (· != '/')).reverse
  let extension := (cs.reverse.takeWhile (· != '.')).reverse
  if extension.length + 1 < cs.length && cs != ['.', '.'] then some (String.ofList extension) else none

/-! ## Default tables -/

/-- The JSON value of a YAML text. -/
def Json.ofYamlText? (text : String) : Option Json :=
  (YamlNode.read? text).bind YamlNode.toJson?

/-- The name says that the file is YAML. -/
def isYamlFile (name : String) : Bool :=
  match fileExtension? name with
  | some extension => extension == "yaml" || extension == "yml"
  | none => false

/-- The default table in a file. -/
def DefaultTable.ofFile (d : Directory) (name : String) : Except SceneError DefaultTable :=
  let value? := (d.file? name).bind (if isYamlFile name then Json.ofYamlText? else Json.read?)
  match value? with
  | some v => (DefaultTable.ofJson v).mapError (·.of (d.source name))
  | none => .error (.unreadable (d.source name))

end SceneMarkup
