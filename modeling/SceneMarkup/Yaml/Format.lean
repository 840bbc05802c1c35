import SceneMarkup.Rule.Config
import SceneMarkup.Yaml.Reader

/-!
# What YAML scalars stand for

A plain scalar stands for null, a truth value or a number if it looks like one, and for its text otherwise; any other scalar
is a text. Where a text is needed a plain scalar is one too, whatever it looks like. An empty plain scalar may also stand
for a list, a map or a record without contents.
-/

namespace SceneMarkup

namespace Yaml

/-- The tags with a meaning of their own. -/
def coreTag (name : String) : String := "tag:yaml.org,2002:" ++ name

/-- The text means null. -/
def isNullText (s : String) : Bool :=
  s = "null" || s = "Null" || s = "NULL" || s = "~"

/-- The truth value that a text means. -/
def boolOfText? (s : String) : Option Bool :=
  if s = "true" || s = "True" || s = "TRUE" then some true
  else if s = "false" || s = "False" || s = "FALSE" then some false
  else none

/-- The number of a run of digits in a base. -/
def digitsInBase? (base : Nat) (cs : List Char) : Option Nat :=
  if cs.isEmpty then none
  else do
    let values ← cs.mapM Json.hexValue?
    if values.all (· < base) then some (values.foldl (fun n d => base * n + d) 0) else none

/-- A text without its sign. -/
def unsigned (cs : List Char) : List Char :=
  match cs with
  | '-' :: rest => rest
  | '+' :: rest => rest
  | _ => cs

/-- The text is a run of digits that starts with a zero without need: it is no number. -/
def isPaddedDigits (cs : List Char) : Bool :=
  match unsigned cs with
  | '0' :: d :: rest => (d :: rest).all Char.isDigit
  | _ => false

/-- The magnitude of a whole number without its sign, in base sixteen, eight, two or ten. -/
def magnitude? (cs : List Char) : Option Nat :=
  match cs with
  | '0' :: 'x' :: rest => digitsInBase? 16 rest
  | '0' :: 'o' :: rest => digitsInBase? 8 rest
  | '0' :: 'b' :: rest => digitsInBase? 2 rest
  | _ => if isPaddedDigits cs then none else digitsInBase? 10 cs

/-- The whole number of at most 128 bits that a text means. -/
def intOfText? (cs : List Char) : Option Int :=
  match cs with
  | '-' :: rest => (magnitude? rest).bind fun n => if n ≤ twoTo 127 then some (-(n : Int)) else none
  | '+' :: rest => (magnitude? rest).bind fun n => if n < twoTo 128 then some n else none
  | _ => (magnitude? cs).bind fun n => if n < twoTo 128 then some n else none

/-- The power of ten behind the digits of a decimal. -/
def powerOfText? : List Char → Option Int
  | [] => some 0
  | e :: rest =>
    if e = 'e' ∨ e = 'E' then
      match Json.readPower rest with
      | some (power, []) => some power
      | _ => none
    else none

/-- The finite number that a decimal means: digits, of which those before or behind the point may be missing, and perhaps a
power of ten. -/
def decimalOfText? (cs : List Char) : Option Float := do
  let negative := cs.head? == some '-'
  let cs := unsigned cs
  let whole := cs.takeWhile Char.isDigit
  let rest := cs.dropWhile Char.isDigit
  let (fraction, rest) := match rest with
    | '.' :: rest => (rest.takeWhile Char.isDigit, rest.dropWhile Char.isDigit)
    | _ => ([], rest)
  guard (!(whole.isEmpty && fraction.isEmpty))
  let x := (Decimal.ofParts whole fraction (← powerOfText? rest)).toFloat
  guard x.isFinite
  return if negative then -x else x

/-- The number that a text means. -/
def floatOfText? (s : String) : Option Float :=
  if s = ".inf" || s = ".Inf" || s = ".INF" || s = "+.inf" || s = "+.Inf" || s = "+.INF" then some (1 / 0)
  else if s = "-.inf" || s = "-.Inf" || s = "-.INF" then some (-1 / 0)
  else if s = ".nan" || s = ".NaN" || s = ".NAN" then some (0 / 0)
  else decimalOfText? s.toList

/-- A JSON number, where a number that is not finite is null. -/
def jsonOfFloat (x : Float) : Json :=
  (Json.finite? x).getD .null

/-- A JSON number, which must fit into 64 bits. -/
def jsonOfInt? (n : Int) : Option Json :=
  if -n ≤ twoTo 63 ∧ n < twoTo 64 then some (.int n) else none

/-- The JSON value of a plain scalar without a tag. -/
def jsonOfPlain? (s : String) : Option Json :=
  if s = "" || isNullText s then some .null
  else match boolOfText? s with
    | some b => some (.bool b)
    | none =>
      match intOfText? s.toList with
      | some n => jsonOfInt? n
      | none =>
        if isPaddedDigits s.toList then some (.str s)
        else match floatOfText? s with
          | some x => some (jsonOfFloat x)
          | none => some (.str s)

/-- The tag is a private one. -/
def isPrivateTag (tag : Option String) : Bool :=
  tag.any fun t => t.toList.head? == some '!'

/-- The JSON value of a scalar. A tag with a meaning of its own asks for a text that has it. -/
def jsonOfScalar? (s : YamlScalar) : Option Json :=
  match s.tag with
  | none => if s.style = .plain then jsonOfPlain? s.text else some (.str s.text)
  | some tag =>
    if isPrivateTag s.tag then none
    else if tag = coreTag "bool" then (boolOfText? s.text).map .bool
    else if tag = coreTag "int" then (intOfText? s.text.toList).bind jsonOfInt?
    else if tag = coreTag "float" then (floatOfText? s.text).map jsonOfFloat
    else if tag = coreTag "null" then if isNullText s.text then some .null else none
    else some (.str s.text)

/-- The scalar that a tree is. -/
def scalar? : Yaml → Option YamlScalar
  | .scalar s => some s
  | _ => none

/-- The text of a scalar, whatever it looks like. -/
def text? (v : Yaml) : Option String :=
  v.scalar?.map (·.text)

/-- The scalar is plain, or a block with a given tag. -/
def isPlainOrTagged (s : YamlScalar) (name : String) : Bool :=
  s.style = .plain || (s.style = .literal && s.tag == some (coreTag name))

/-- The truth value of a plain scalar. -/
def flag? : Yaml → Option Bool
  | .scalar s => if isPlainOrTagged s "bool" then boolOfText? s.text else none
  | _ => none

/-- The name of a choice: the text of a scalar, or its private tag if it has no contents. -/
def choice? : Yaml → Option String
  | .scalar s =>
    if isPrivateTag s.tag then
      if isPlainOrTagged s "null" && (s.text = "" || isNullText s.text) then
        s.tag.map fun t => if t = "!" then t else String.ofList (t.toList.drop 1)
      else none
    else some s.text
  | _ => none

/-- Whether a node is not there although it may be. One with the tag of null must be written as null. -/
def absent? : Yaml → Option Bool
  | .scalar s =>
    if s.style ≠ .plain then some false
    else if s.tag = some (coreTag "null") then (if isNullText s.text then some true else none)
    else some (s.tag.isNone && (s.text = "" || isNullText s.text))
  | _ => some false

/-- A node that stands for a collection without contents. -/
def isEmptyCollection : Yaml → Bool
  | .scalar s => s.style = .plain && s.text = ""
  | _ => false

/-- The items of a sequence. -/
def items? : Yaml → Option (List Yaml)
  | .sequence _ items => some items
  | v => if v.isEmptyCollection then some [] else none

/-- The entries of a mapping. -/
def entries? : Yaml → Option (List (Yaml × Yaml))
  | .mapping _ entries => some entries
  | v => if v.isEmptyCollection then some [] else none

end Yaml

namespace YamlNode

/-- The greatest number of collections inside one another. -/
def maxNesting : Nat := 128

/-- What the followed node stands for. -/
def decode {α : Type} (decode? : Yaml → Option α) (n : YamlNode) : Decoder α := do
  .ofOption (decode? (← n.follow))

/-- The items of a sequence. -/
def items (n : YamlNode) : Decoder (List YamlNode) := do
  return (← n.decode Yaml.items?).map (⟨n.anchored, ·⟩)

/-- The entries of a mapping, whose keys must be scalars. -/
def entries (n : YamlNode) : Decoder (List (String × YamlNode)) := do
  (← n.decode Yaml.entries?).mapM fun (key, v) => do
    return (← decode Yaml.text? ⟨n.anchored, key⟩, ⟨n.anchored, v⟩)

/-- The values of the fields of a record, of which none may be given twice. -/
def record (names : List String) (n : YamlNode) : Decoder (List (Option YamlNode)) := do
  let entries ← n.entries
  names.mapM fun name =>
    match entries.filter (·.1 = name) with
    | [] => return none
    | [e] => return some e.2
    | _ => .ofOption none

/-- The followed node, unless it is not there although it may be. -/
def present (n : YamlNode) : Decoder (Option YamlNode) := do
  let v ← n.follow
  return if ← .ofOption v.absent? then none else some ⟨n.anchored, v⟩

/-- The JSON value of a node with at most `left` collections inside one another. The keys of a mapping must be scalars; a key
given twice keeps its first place and its last value. -/
def toJsonWithin (anchored : Yaml.Anchored) : (left : Nat) → Yaml → Decoder Json
  | 0, v => decode (fun v => v.scalar?.bind Yaml.jsonOfScalar?) ⟨anchored, v⟩
  | left + 1, v => do
    match ← follow ⟨anchored, v⟩ with
    | .scalar s => .ofOption (Yaml.jsonOfScalar? s)
    | .sequence tag items =>
      if Yaml.isPrivateTag tag then .ofOption none
      else return .arr (← items.mapM (toJsonWithin anchored left))
    | .mapping tag entries =>
      if Yaml.isPrivateTag tag then .ofOption none
      else return .obj (← entries.foldlM (fun done (key, v) => do
        return Named.put (← decode Yaml.text? ⟨anchored, key⟩) (← toJsonWithin anchored left v) done) [])
    | .alias _ => .ofOption none

/-- The JSON value of a document. -/
def toJson? (n : YamlNode) : Option Json :=
  (toJsonWithin n.anchored maxNesting n.tree).within? n.budget

end YamlNode

/-- A configuration in YAML. -/
instance : Rule.ConfigFormat YamlNode where
  text := YamlNode.decode Yaml.text?
  flag := YamlNode.decode Yaml.flag?
  choice := YamlNode.decode Yaml.choice?
  expression := YamlNode.decode fun v => v.scalar?.bind fun s => (Yaml.jsonOfScalar? s).bind Rule.jsonExpression?
  present := YamlNode.present
  items := YamlNode.items
  entries := YamlNode.entries
  record := YamlNode.record

end SceneMarkup
