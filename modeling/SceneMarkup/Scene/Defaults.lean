import SceneMarkup.Json.Basic
import SceneMarkup.Error

/-!
# Default tables

A default table says which value an attribute has when a node does not mention it. It has a section for each type of node
and one for all nodes. An entry of the type's own section counts before one for all nodes, and an entry that is null says
that there is no default, in the type's own section whatever holds for all nodes.
-/

namespace SceneMarkup

/-- A default table: its sections by name. -/
structure DefaultTable where
  sections : Fields
deriving Inhabited

/-- Why a JSON value is no default table. -/
inductive DefaultTableError where
  | notObject
  | sectionNotObject (name : String)
deriving DecidableEq, Repr

/-- The text for people. -/
def DefaultTableError.message : DefaultTableError → String
  | .notObject => "default table must be an object of sections"
  | .sectionNotObject name => "section '" ++ name ++ "' must be an object"

/-- The error of a table that comes from `source`. -/
def DefaultTableError.of (source : String) (e : DefaultTableError) : SceneError :=
  .config source e.message

namespace DefaultTable

/-- The name of the section for all nodes. -/
def globalSection : String := "GLOBAL"

/-- The first section that is no object. -/
def badSection? (sections : Fields) : Option String :=
  (sections.find? fun s => s.2.fields?.isNone).map (·.1)

/-- The table that a JSON value stands for: an object whose fields are objects. -/
def ofJson : Json → Except DefaultTableError DefaultTable
  | .obj sections =>
    match badSection? sections with
    | some name => .error (.sectionNotObject name)
    | none => .ok ⟨sections⟩
  | _ => .error .notObject

/-- The object that stands for a table. -/
def toJson (t : DefaultTable) : Json :=
  .obj t.sections

/-- The entries of a section. -/
def section? (t : DefaultTable) (name : String) : Option Fields :=
  (t.sections.lookup name).bind Json.fields?

/-- The names of the sections. -/
def sectionNames (t : DefaultTable) : List String :=
  t.sections.map (·.1)

/-- The entry of a section for an attribute. -/
def entry? (t : DefaultTable) (name key : String) : Option Json :=
  (t.section? name).bind (List.lookup key)

/-- The default of an attribute of a type of node. -/
def resolve? (t : DefaultTable) (type key : String) : Option Json :=
  ((t.entry? type key).or (t.entry? globalSection key)).filter (!·.isNull)

end DefaultTable

end SceneMarkup
