import SceneMarkup.Json.Basic

/-!
# Reading JSON text

The reader accepts exactly the JSON grammar: no text after the value, no raw control characters, no lone halves of a
surrogate pair. A number that is no whole number of 64 bits is read by `Decimal.scale?` from the digits that fit into 64
bits; a number beyond the binary64 range is refused, and so is nesting deeper than `Json.maxDepth`. `Json.readRaw?` keeps
every field as it is written; `Json.read?` then settles fields named twice: such a field keeps its first place and its last
value.
-/

namespace SceneMarkup

namespace Json

/-- The most arrays and objects that may be open at once. -/
def maxDepth : Nat := 127

/-- The blanks between tokens. -/
def isSpace (c : Char) : Bool :=
  c == ' ' || c == '\t' || c == '\n' || c == '\r'

/-- The text after its leading blanks. -/
def skipSpace (cs : List Char) : List Char :=
  cs.dropWhile isSpace

/-- A digit's value in base sixteen. -/
def hexValue? (c : Char) : Option Nat :=
  if '0' ≤ c ∧ c ≤ '9' then some (c.toNat - '0'.toNat)
  else if 'a' ≤ c ∧ c ≤ 'f' then some (c.toNat - 'a'.toNat + 10)
  else if 'A' ≤ c ∧ c ≤ 'F' then some (c.toNat - 'A'.toNat + 10)
  else none

/-- The number that four hexadecimal digits write. -/
def unit? (a b c d : Char) : Option Nat := do
  return (← hexValue? a) * 4096 + (← hexValue? b) * 256 + (← hexValue? c) * 16 + (← hexValue? d)

/-- The number is the first half of a surrogate pair. -/
def isHighHalf (n : Nat) : Bool :=
  0xD800 ≤ n && n < 0xDC00

/-- The number is the second half of a surrogate pair. -/
def isLowHalf (n : Nat) : Bool :=
  0xDC00 ≤ n && n < 0xE000

/-- The character that a one-letter escape stands for. -/
def shortEscape? : Char → Option Char
  | '"' => some '"'
  | '\\' => some '\\'
  | '/' => some '/'
  | 'b' => some '\x08'
  | 'f' => some '\x0c'
  | 'n' => some '\n'
  | 'r' => some '\r'
  | 't' => some '\t'
  | _ => none

/-- The rest of a string after its opening quote, and what follows the closing quote. The characters read so far are in
reverse, and `high` is the first half of a surrogate pair whose second half has to come next. -/
def readString (high : Option Nat) (done : List Char) : List Char → Option (String × List Char)
  | '\\' :: 'u' :: a :: b :: c :: d :: rest => do
    let unit ← unit? a b c d
    match high with
    | some h =>
      if isLowHalf unit then
        readString none (Char.ofNat (0x10000 + (h - 0xD800) * 0x400 + (unit - 0xDC00)) :: done) rest
      else none
    | none =>
      if isHighHalf unit then readString (some unit) done rest
      else if isLowHalf unit then none
      else readString none (Char.ofNat unit :: done) rest
  | '\\' :: e :: rest => do
    guard high.isNone
    let c ← shortEscape? e
    readString none (c :: done) rest
  | c :: rest =>
    if high.isSome ∨ c = '\\' ∨ c.toNat < 32 then none
    else if c = '"' then some (String.ofList done.reverse, rest)
    else readString none (c :: done) rest
  | [] => none

/-- A number without its sign: the whole digits, the fraction digits and the power of ten, of which the last two may be
missing. -/
structure NumberParts where
  whole : List Char
  fraction : Option (List Char)
  power : Option Int

/-- The power of ten after the mark of the exponent. -/
def readPower (cs : List Char) : Option (Int × List Char) :=
  let (negative, cs) := match cs with
    | '-' :: rest => (true, rest)
    | '+' :: rest => (false, rest)
    | _ => (false, cs)
  let digits := cs.takeWhile Char.isDigit
  let power : Int := digitsValue digits
  if digits.isEmpty then none
  else some (if negative then -power else power, cs.dropWhile Char.isDigit)

/-- The parts of a number: no digit may follow a leading zero, and a point or an exponent needs digits. -/
def readNumberParts (cs : List Char) : Option (NumberParts × List Char) := do
  let digits := cs.takeWhile Char.isDigit
  let rest := cs.dropWhile Char.isDigit
  guard (!digits.isEmpty && (digits.length == 1 || digits.head? != some '0'))
  let (fraction, rest) ← match rest with
    | '.' :: rest =>
      let places := rest.takeWhile Char.isDigit
      if places.isEmpty then none else some (some places, rest.dropWhile Char.isDigit)
    | _ => some (none, rest)
  match rest with
  | c :: after =>
    if c = 'e' ∨ c = 'E' then
      let (power, rest) ← readPower after
      return (⟨digits, fraction, some power⟩, rest)
    else return (⟨digits, fraction, none⟩, rest)
  | [] => return (⟨digits, fraction, none⟩, rest)

/-- A finite number, refused when it is not. -/
def finite? (x : Float) : Option Json :=
  if h : x.isFinite = true then some (.num (.real x h)) else none

/-- The number `n` continued by the digits while it fits into 64 bits, and the digits that are left. -/
def gather (n : Nat) : List Char → Nat × List Char
  | [] => (n, [])
  | c :: rest =>
    let next := 10 * n + (c.toNat - '0'.toNat)
    if next < twoTo 64 then gather next rest else (n, c :: rest)

/-- The decimal whose coefficient is gathered from the whole digits and then from the fraction digits. A whole digit that is
left still counts as a place; a fraction digit that is left counts for nothing. -/
def NumberParts.decimal (p : NumberParts) : Decimal :=
  let places := p.fraction.getD []
  let whole := gather 0 p.whole
  let all := gather whole.1 places
  ⟨all.1, p.power.getD 0 + whole.2.length - (places.length - all.2.length : Nat)⟩

/-- The value of a number. Digits alone that fit into 64 bits give a whole number, except the negative zero. -/
def NumberParts.value? (negative : Bool) (p : NumberParts) : Option Json :=
  let real := p.decimal.scale?.bind fun x => finite? (if negative then -x else x)
  let n := digitsValue p.whole
  if p.fraction.isSome || p.power.isSome then real
  else if negative then
    if 0 < n ∧ n ≤ twoTo 63 then some (.int (-n)) else real
  else if n < twoTo 64 then some (.int n) else real

/-- The text after a given word. -/
def readWord (word : String) (v : Json) (cs : List Char) : Option (Json × List Char) :=
  if word.toList.isPrefixOf cs then some (v, cs.drop word.length) else none

mutual
/-- A value at the start of the text, with at most `depth` more arrays and objects open inside it. -/
def readValue : (fuel depth : Nat) → List Char → Option (Json × List Char)
  | 0, _, _ => none
  | fuel + 1, depth, cs =>
    match skipSpace cs with
    | '"' :: rest => (readString none [] rest).map fun (s, rest) => (.str s, rest)
    | '[' :: rest =>
      match depth, skipSpace rest with
      | 0, _ => none
      | _ + 1, ']' :: rest => some (.arr [], rest)
      | depth + 1, rest => readItems fuel depth [] rest
    | '\x7b' :: rest =>
      match depth, skipSpace rest with
      | 0, _ => none
      | _ + 1, '\x7d' :: rest => some (.obj [], rest)
      | depth + 1, rest => readFields fuel depth [] rest
    | 't' :: rest => readWord "rue" (.bool true) rest
    | 'f' :: rest => readWord "alse" (.bool false) rest
    | 'n' :: rest => readWord "ull" .null rest
    | '-' :: rest => do
      let (parts, rest) ← readNumberParts rest
      return (← parts.value? true, rest)
    | rest => do
      let (parts, rest) ← readNumberParts rest
      return (← parts.value? false, rest)

/-- The items of an array from one of them on, with those before it in reverse. -/
def readItems : (fuel depth : Nat) → (done : List Json) → List Char → Option (Json × List Char)
  | 0, _, _, _ => none
  | fuel + 1, depth, done, cs => do
    let (v, rest) ← readValue fuel depth cs
    match skipSpace rest with
    | ',' :: rest => readItems fuel depth (v :: done) rest
    | ']' :: rest => return (.arr (v :: done).reverse, rest)
    | _ => none

/-- The fields of an object from one of them on, with those before it in reverse. -/
def readFields : (fuel depth : Nat) → (done : List (String × Json)) → List Char → Option (Json × List Char)
  | 0, _, _, _ => none
  | fuel + 1, depth, done, cs =>
    match skipSpace cs with
    | '"' :: rest => do
      let (name, rest) ← readString none [] rest
      match skipSpace rest with
      | ':' :: rest => do
        let (v, rest) ← readValue fuel depth rest
        match skipSpace rest with
        | ',' :: rest => readFields fuel depth ((name, v) :: done) rest
        | '\x7d' :: rest => return (.obj ((name, v) :: done).reverse, rest)
        | _ => none
      | _ => none
    | _ => none
end

/-- The value of a whole JSON text with every field as it is written. Every step of the reader takes a character, so twice
as many steps as characters always suffice. -/
def readRaw? (text : String) : Option Json :=
  let cs := text.toList
  match readValue (2 * cs.length + 2) maxDepth cs with
  | some (v, rest) => if (skipSpace rest).isEmpty then some v else none
  | none => none

mutual
/-- The value in which each field of an object is named once, at its first place and with its last value. -/
def settle : Json → Json
  | .arr items => .arr (settleItems items)
  | .obj fields => .obj (settleFields [] fields)
  | v => v

/-- `settle` of every item. -/
def settleItems : List Json → List Json
  | [] => []
  | v :: rest => v.settle :: settleItems rest

/-- The settled fields, set one after the other into those before them. -/
def settleFields (done : Fields) : List (String × Json) → Fields
  | [] => done
  | (name, v) :: rest => settleFields (Named.put name v.settle done) rest
end

/-- The value of a whole JSON text. -/
def read? (text : String) : Option Json :=
  (readRaw? text).map settle

end Json

end SceneMarkup
