import SceneMarkup.Json.Basic

/-!
# Errors

Everything that can go wrong from reading a configuration to writing markup. An error has a text for people
(`SceneError.message`) and a JSON form from which it can be read back.
-/

namespace SceneMarkup

/-- What went wrong. -/
inductive SceneError where
  /-- A file could not be read or written. -/
  | io (text : String)
  /-- A configuration source has a shape that is not allowed. -/
  | config (source reason : String)
  /-- The text of a configuration source is not in its language, or its values have the wrong types. -/
  | unreadable (source : String)
  /-- An input document has a shape that is not allowed. -/
  | validation (reason : String)
  /-- A rule expression could not be parsed or evaluated. -/
  | expression (source reason : String)
  /-- A text is not JSON, or its values have the wrong types. -/
  | serialization (text : String)
  /-- Something that should not happen. -/
  | internal (text : String)
deriving DecidableEq, Repr

namespace SceneError

/-- The reason given for an unreadable configuration source. -/
def unreadableReason : String := "the text could not be read"

/-- The text for people. -/
def message : SceneError → String
  | .io text => "io error: " ++ text
  | .config source reason => "config error in '" ++ source ++ "': " ++ reason
  | .unreadable source => "config error in '" ++ source ++ "': " ++ unreadableReason
  | .validation reason => "validation error: " ++ reason
  | .expression source reason => "expression '" ++ source ++ "' failed: " ++ reason
  | .serialization text => "serialization error: " ++ text
  | .internal text => "internal error: " ++ text

/-- The JSON form: an object whose only field is named for the kind of error. -/
def toJson : SceneError → Json
  | .io text => .obj [("Io", .str text)]
  | .config source reason => .obj [("Config", .obj [("source_name", .str source), ("message", .str reason)])]
  | .unreadable source =>
    .obj [("Config", .obj [("source_name", .str source), ("message", .str unreadableReason)])]
  | .validation reason => .obj [("Validation", .obj [("message", .str reason)])]
  | .expression source reason =>
    .obj [("Expression", .obj [("expression", .str source), ("message", .str reason)])]
  | .serialization text => .obj [("Serde", .str text)]
  | .internal text => .obj [("Internal", .str text)]

/-- The error that a JSON form stands for. -/
def ofJson? : Json → Option SceneError
  | .obj [(kind, v)] =>
    let text (name : String) : Option String := (v.field? name).bind Json.string?
    match kind with
    | "Io" => v.string?.map .io
    | "Config" => do return .config (← text "source_name") (← text "message")
    | "Validation" => (text "message").map .validation
    | "Expression" => do return .expression (← text "expression") (← text "message")
    | "Serde" => v.string?.map .serialization
    | "Internal" => v.string?.map .internal
    | _ => none
  | _ => none

end SceneError

end SceneMarkup
