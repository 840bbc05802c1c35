import SceneMarkup.Json.Basic

/-!
# Colours and paints

A colour of three channels between zero and one is written in hexadecimal. A paint (an entry of a list of fills, strokes or
effects) is compressed by writing its colour in that form and leaving out what it would have anyway.
-/

namespace SceneMarkup

/-- A byte as two hexadecimal digits in upper case. -/
def byteDigits (n : Nat) : List Char :=
  [n / 16 % 16, n % 16].map fun d => (Nat.digitChar d).toUpper

/-- The byte of a colour channel, where one stands for 255. -/
def channelByte (x : Float) : Nat :=
  nearestByte (x * 255)

/-- The hexadecimal form of a colour. -/
def rgbHex (r g b : Float) : String :=
  String.ofList ('#' :: byteDigits (channelByte r) ++ byteDigits (channelByte g) ++ byteDigits (channelByte b))

/-- The hexadecimal form of a colour object, which needs all three channels. -/
def colorHex? (color : Fields) : Option String := do
  let r ← (← color.lookup "r").number?
  let g ← (← color.lookup "g").number?
  let b ← (← color.lookup "b").number?
  return rgbHex r g b

/-- An array or an object without contents. -/
def Json.isEmptyCollection : Json → Bool
  | .arr items => items.isEmpty
  | .obj fields => fields.isEmpty
  | _ => false

/-- The value that a field of a paint has anyway. -/
def isPaintDefault (key : String) (v : Json) : Bool :=
  match key, v with
  | "visible", .bool b => b
  | "opacity", .num n => n.toFloat == 1
  | "blendMode", .str s => s == "NORMAL"
  | "boundVariables", v => v.isEmptyCollection
  | _, _ => false

/-- The compressed value of a field of a paint. -/
def paintValue (key : String) (v : Json) : Json :=
  match v with
  | .obj color => if key = "color" then ((colorHex? color).map .str).getD v else v
  | _ => v

/-- A compressed paint: its type comes first, and what is null or there anyway is left out. -/
def compressPaint (paint : Fields) : Fields :=
  ((paint.lookup "type").map (("type", ·))).toList ++
    paint.filterMap fun (key, v) =>
      if key = "type" || v.isNull || isPaintDefault key v then none else some (key, paintValue key v)

end SceneMarkup
