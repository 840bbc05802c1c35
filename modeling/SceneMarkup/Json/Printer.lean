import SceneMarkup.Json.Basic

/-!
# JSON text

The compact form has no blanks at all; the indented form puts every item and field on a line of its own, two blanks
deeper than the line before. Only quotes, backslashes and control characters are escaped.
-/

namespace SceneMarkup

/-- Four hexadecimal digits of a code point below 65536, in lower case. -/
def fourHexDigits (n : Nat) : List Char :=
  [n / 4096 % 16, n / 256 % 16, n / 16 % 16, n % 16].map Nat.digitChar

/-- One character inside a JSON string. -/
def jsonChar (c : Char) : List Char :=
  if c = '"' then ['\\', '"']
  else if c = '\\' then ['\\', '\\']
  else if c = '\x08' then ['\\', 'b']
  else if c = '\x0c' then ['\\', 'f']
  else if c = '\n' then ['\\', 'n']
  else if c = '\r' then ['\\', 'r']
  else if c = '\t' then ['\\', 't']
  else if c.toNat < 32 then '\\' :: 'u' :: fourHexDigits c.toNat
  else [c]

/-- A JSON string. -/
def jsonString (s : String) : List Char :=
  '"' :: s.toList.flatMap jsonChar ++ ['"']

/-- A JSON number. -/
def JsonNumber.text : JsonNumber → List Char
  | .whole n => (toString n).toList
  | .real x _ => jsonLayout.write x

namespace Json

mutual
/-- The characters of the compact form. -/
def compactChars : Json → List Char
  | .null => "null".toList
  | .bool true => "true".toList
  | .bool false => "false".toList
  | .num n => n.text
  | .str s => jsonString s
  | .arr [] => ['[', ']']
  | .arr (v :: rest) => '[' :: v.compactChars ++ compactItems rest ++ [']']
  | .obj [] => ['\x7b', '\x7d']
  | .obj ((name, v) :: rest) =>
    '\x7b' :: jsonString name ++ ':' :: v.compactChars ++ compactFields rest ++ ['\x7d']

/-- The items after the first. -/
def compactItems : List Json → List Char
  | [] => []
  | v :: rest => ',' :: v.compactChars ++ compactItems rest

/-- The fields after the first. -/
def compactFields : List (String × Json) → List Char
  | [] => []
  | (name, v) :: rest => ',' :: jsonString name ++ ':' :: v.compactChars ++ compactFields rest
end

/-- A new line at a depth of nesting. -/
def lineAt (depth : Nat) : List Char :=
  '\n' :: List.replicate (2 * depth) ' '

mutual
/-- The characters of the indented form, for a value at a depth of nesting. -/
def indentedChars (depth : Nat) : Json → List Char
  | .arr [] => ['[', ']']
  | .arr (v :: rest) =>
    '[' :: lineAt (depth + 1) ++ v.indentedChars (depth + 1) ++ indentedItems (depth + 1) rest ++ lineAt depth ++ [']']
  | .obj [] => ['\x7b', '\x7d']
  | .obj ((name, v) :: rest) =>
    '\x7b' :: lineAt (depth + 1) ++ jsonString name ++ ':' :: ' ' :: v.indentedChars (depth + 1) ++
      indentedFields (depth + 1) rest ++ lineAt depth ++ ['\x7d']
  | v => v.compactChars

/-- The items after the first. -/
def indentedItems (depth : Nat) : List Json → List Char
  | [] => []
  | v :: rest => ',' :: lineAt depth ++ v.indentedChars depth ++ indentedItems depth rest

/-- The fields after the first. -/
def indentedFields (depth : Nat) : List (String × Json) → List Char
  | [] => []
  | (name, v) :: rest =>
    ',' :: lineAt depth ++ jsonString name ++ ':' :: ' ' :: v.indentedChars depth ++ indentedFields depth rest
end

/-- The compact text of a value. -/
def compact (v : Json) : String :=
  String.ofList v.compactChars

/-- The indented text of a value. -/
def indented (v : Json) : String :=
  String.ofList (v.indentedChars 0)

end Json

end SceneMarkup
