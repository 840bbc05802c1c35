import SceneMarkup.Yaml.Cursor

/-!
# YAML tokens

Indentation becomes explicit here: blocks have tokens for their start and end, as brackets have. Whether a scalar is the key
of a mapping is known only at the colon behind it, so the place of every possible key is remembered and the tokens that
open the mapping are put in there afterwards.
-/

namespace SceneMarkup.Yaml

/-- A token. -/
inductive Token where
  | version
  | tagHandle (handle start : String)
  | documentStart | documentEnd
  | sequenceStart | mappingStart | blockEnd
  | openBracket | closeBracket | openBrace | closeBrace
  | entry | comma | key | value
  | alias (name : String)
  | anchor (name : String)
  | tag (handle suffix : String)
  | scalar (text : String) (style : ScalarStyle)
deriving DecidableEq

/-- A place where a key may have begun: the number of tokens before it, and whether it has to be one. -/
structure PossibleKey where
  tokens : Nat
  start : Cursor
  required : Bool

/-- The state of the scanner. -/
structure Scan where
  cursor : Cursor
  /-- The tokens so far, the last one first. -/
  tokens : List Token
  /-- How many they are. -/
  count : Nat
  /-- The column of the innermost block, below zero outside any. -/
  indent : Int
  /-- The columns of the blocks around it. -/
  outer : List Int
  /-- A key may begin here. -/
  keyAllowed : Bool
  /-- The possible key outside any flow. -/
  blockKey : Option PossibleKey
  /-- The possible keys inside the open flows, innermost first. -/
  flowKeys : List (Option PossibleKey)

namespace Scan

/-- The start of a text. -/
def start (text : List Char) : Scan :=
  ⟨Cursor.start text, [], 0, -1, [], true, none, []⟩

/-- A bracket or brace is open. -/
def inFlow (s : Scan) : Bool := !s.flowKeys.isEmpty

/-- The possible key of the innermost flow or block. -/
def currentKey (s : Scan) : Option PossibleKey :=
  match s.flowKeys with
  | [] => s.blockKey
  | k :: _ => k

/-- Sets the possible key of the innermost flow or block. -/
def setKey (s : Scan) (k : Option PossibleKey) : Scan :=
  match s.flowKeys with
  | [] => { s with blockKey := k }
  | _ :: rest => { s with flowKeys := k :: rest }

/-- Adds a token. -/
def emit (s : Scan) (t : Token) : Scan :=
  { s with tokens := t :: s.tokens, count := s.count + 1 }

/-- Puts a token in after the first `n` ones. -/
def emitAt (s : Scan) (n : Nat) (t : Token) : Scan :=
  let later := s.tokens.take (s.count - n)
  { s with tokens := later ++ t :: s.tokens.drop (s.count - n), count := s.count + 1 }

/-- Gives up the possible key, which fails if it had to be one. -/
def dropKey (s : Scan) : Option Scan :=
  if s.currentKey.any (·.required) then none else some (s.setKey none)

/-- Remembers that a key may begin here. -/
def saveKey (s : Scan) : Option Scan :=
  if s.keyAllowed then do
    let s ← s.dropKey
    let required := !s.inFlow && s.indent == s.cursor.column
    return s.setKey (some ⟨s.count, s.cursor, required⟩)
  else some s

/-- A possible key that is no longer one: it began on an earlier line, or too far back. -/
def PossibleKey.isStale (k : PossibleKey) (c : Cursor) : Bool :=
  k.start.line < c.line || k.start.index + 1024 < c.index

/-- Gives up a possible key that is no longer one. -/
def refreshKey (c : Cursor) : Option PossibleKey → Option (Option PossibleKey)
  | none => some none
  | some k => if PossibleKey.isStale k c then (if k.required then none else some none) else some (some k)

/-- Gives up all possible keys that are no longer ones. -/
def refreshKeys (s : Scan) : Option Scan := do
  return { s with
    blockKey := ← refreshKey s.cursor s.blockKey
    flowKeys := ← s.flowKeys.mapM (refreshKey s.cursor) }

/-- Opens a block at a column, unless there is one already. The token that opens it comes after `n` tokens. -/
def openBlock (s : Scan) (column n : Nat) (t : Token) : Scan :=
  if !s.inFlow && s.indent < column then
    { s.emitAt n t with indent := column, outer := s.indent :: s.outer }
  else s

/-- Closes the blocks that are deeper than a column. -/
def closeBlocks (column : Int) : (depth : Nat) → Scan → Scan
  | 0, s => s
  | depth + 1, s =>
    if column < s.indent then
      closeBlocks column depth { s.emit .blockEnd with indent := s.outer.headD (-1), outer := s.outer.tail }
    else s

/-- Closes the blocks that are deeper than a column, which counts only outside any flow. -/
def unroll (s : Scan) (column : Int) : Scan :=
  if s.inFlow then s else closeBlocks column (s.outer.length + 1) s

/-- Passes blanks, comments and empty lines. After the start of a line outside a flow, tabs are not passed. -/
def skipToToken : (fuel : Nat) → Scan → Scan
  | 0, s => s
  | fuel + 1, s =>
    let c := s.cursor
    let c := if c.column == 0 && c.isAt '\ufeff' then c.skip 1 else c
    let c := (c.takeWhile fun ch => ch == ' ' || ((s.inFlow || !s.keyAllowed) && ch == '\t')).2
    let c := if c.isAt '#' then c.skipLine else c
    if c.atBreak then skipToToken fuel { s with cursor := c.skipBreak, keyAllowed := s.keyAllowed || !s.inFlow }
    else { s with cursor := c }

/-! ## Directives, anchors and tags -/

/-- The character may stand in a tag. -/
def isTagChar (verbatim : Bool) (c : Char) : Bool :=
  isNameChar c || ";/?:@&=+$.!~*'()%".toList.contains c || (verbatim && (c == ',' || c == '[' || c == ']'))

/-- The octets of a percent-encoded text of tag characters. -/
def percentOctets : List Char → Option (List UInt8)
  | [] => some []
  | '%' :: a :: b :: rest => do
    let n := 16 * (← Json.hexValue? a) + (← Json.hexValue? b)
    return UInt8.ofNat n :: (← percentOctets rest)
  | '%' :: _ => none
  | c :: rest => do return c.toUInt8 :: (← percentOctets rest)

/-- The characters of a percent-encoded text, whose octets are UTF-8, up to a zero octet. -/
def decodePercent (cs : List Char) : Option (List Char) := do
  return (← String.fromUTF8? ⟨(← percentOctets cs).toArray⟩).toList.takeWhile (· != '\x00')

/-- A part of a tag, which may not be empty. -/
def tagPart (verbatim : Bool) (before : List Char) (c : Cursor) : Option (String × Cursor) := do
  let (run, c) := c.takeWhile (isTagChar verbatim)
  if before.isEmpty && run.isEmpty then none
  else return (String.ofList (before ++ (← decodePercent run)), c)

/-- The handle of a tag: exclamation marks around a name. -/
def tagName (c : Cursor) : List Char × Cursor :=
  let (name, c) := (c.skip 1).takeWhile isNameChar
  if c.isAt '!' then ('!' :: name ++ ['!'], c.skip 1) else ('!' :: name, c)

/-- A tag: verbatim between angle brackets, or a handle and a suffix. -/
def readTag (c : Cursor) : Option (Token × Cursor) := do
  if c.at? 1 == some '<' then
    let (uri, c) ← tagPart true [] (c.skip 2)
    if c.isAt '>' then return (.tag "" uri, c.skip 1) else none
  else
    let (handle, c) := tagName c
    if 1 < handle.length && handle.getLast? == some '!' then
      let (suffix, c) ← tagPart false [] c
      return (.tag (String.ofList handle) suffix, c)
    else
      let (run, c) := c.takeWhile (isTagChar false)
      let suffix := handle.drop 1 ++ (← decodePercent run)
      return (if suffix.isEmpty then .tag "" "!" else .tag "!" (String.ofList suffix), c)

/-- The name of an anchor or alias, and the place after it. -/
def readName (c : Cursor) : Option (String × Cursor) :=
  let (name, c) := c.takeWhile isNameChar
  if name.isEmpty || !(c.gapAt 0 || "?:,]\x7d%@".toList.any c.isAt || c.isAt (Char.ofNat 96)) then none
  else some (String.ofList name, c)

/-- A directive: the version of the language, or the meaning of a handle. -/
def readDirective (c : Cursor) : Option (Token × Cursor) := do
  let (name, c) := (c.skip 1).takeWhile isNameChar
  if !c.gapAt 0 then none
  else if String.ofList name = "YAML" then
    let (major, c) := c.skipBlanks.takeWhile Char.isDigit
    if major.isEmpty || 9 < major.length || !c.isAt '.' then none
    let (minor, c) := (c.skip 1).takeWhile Char.isDigit
    if minor.isEmpty || 9 < minor.length || digitsValue major != 1 || !([1, 2].contains (digitsValue minor)) then none
    return (.version, ← c.endLine?)
  else if String.ofList name = "TAG" then
    let c := c.skipBlanks
    if !c.isAt '!' then none
    let (handle, c) := tagName c
    if (handle != ['!'] && handle.getLast? != some '!') || !c.atBlank then none
    let (start, c) ← tagPart true [] c.skipBlanks
    if !c.gapAt 0 then none
    return (.tagHandle (String.ofList handle) start, ← c.endLine?)
  else none

/-! ## Tokens -/

/-- A plain scalar may begin here. -/
def startsPlain (s : Scan) : Bool :=
  let c := s.cursor
  match c.at? 0 with
  | none => false
  | some ch =>
    !(isInlineBlank ch || isLineBreak ch || "-?:,[]\x7b\x7d#&*!|>'\"%@".toList.contains ch || ch == Char.ofNat 96) ||
      (ch == '-' && !(c.at? 1).any isInlineBlank) ||
      (!s.inFlow && (ch == '?' || ch == ':') && !c.gapAt 1)

/-- A marker of a document's start or end. -/
def marker (s : Scan) (t : Token) : Option Scan := do
  let s ← (s.unroll (-1)).dropKey
  return { s with keyAllowed := false, cursor := s.cursor.skip 3 }.emit t

/-- A bracket or brace that opens a flow. -/
def openFlow (s : Scan) (t : Token) : Option Scan := do
  let s ← s.saveKey
  return { s with flowKeys := none :: s.flowKeys, keyAllowed := true, cursor := s.cursor.skip 1 }.emit t

/-- A bracket or brace that closes a flow. -/
def closeFlow (s : Scan) (t : Token) : Option Scan := do
  let s ← s.dropKey
  return { s with flowKeys := s.flowKeys.tail, keyAllowed := false, cursor := s.cursor.skip 1 }.emit t

/-- The dash before an item of a sequence. -/
def readEntry (s : Scan) : Option Scan := do
  if !s.inFlow && !s.keyAllowed then none
  let s ← (s.openBlock s.cursor.column s.count .sequenceStart).dropKey
  return { s with keyAllowed := true, cursor := s.cursor.skip 1 }.emit .entry

/-- The question mark before a key. -/
def readKey (s : Scan) : Option Scan := do
  if !s.inFlow && !s.keyAllowed then none
  let s ← (s.openBlock s.cursor.column s.count .mappingStart).dropKey
  return { s with keyAllowed := !s.inFlow, cursor := s.cursor.skip 1 }.emit .key

/-- The colon before a value. What has been a possible key is one. -/
def readValue (s : Scan) : Option Scan := do
  match s.currentKey with
  | some k =>
    let s := ((s.emitAt k.tokens .key).openBlock k.start.column k.tokens .mappingStart).setKey none
    return { s with keyAllowed := false, cursor := s.cursor.skip 1 }.emit .value
  | none =>
    if !s.inFlow && !s.keyAllowed then none
    let s := s.openBlock s.cursor.column s.count .mappingStart
    return { s with keyAllowed := !s.inFlow, cursor := s.cursor.skip 1 }.emit .value

/-- A scalar, an alias, an anchor or a tag, which may begin a key and after which none may begin. -/
def readNode (s : Scan) (read : Cursor → Option (Token × Cursor)) : Option Scan := do
  let s ← s.saveKey
  let (t, c) ← read s.cursor
  return { s with keyAllowed := false, cursor := c }.emit t

/-- A plain scalar. After one that ends at a line's end a key may begin. -/
def readPlain (s : Scan) : Option Scan := do
  let s ← s.saveKey
  let (text, c, broken) ← plainScalar s.inFlow (s.indent + 1).toNat (s.cursor.size + 1) [] Gap.none s.cursor
  return { s with keyAllowed := broken, cursor := c }.emit (.scalar text .plain)

/-- A block scalar. -/
def readBlock (s : Scan) (literal : Bool) : Option Scan := do
  let s ← s.dropKey
  let (text, c) ← blockScalar literal s.indent (s.cursor.skip 1)
  return { s with keyAllowed := true, cursor := c }.emit (.scalar text (if literal then .literal else .other))

/-- A quoted scalar. -/
def readQuoted (single : Bool) (c : Cursor) : Option (Token × Cursor) := do
  let (text, c) ← quotedScalar single (c.size + 1) [] (c.skip 1)
  return (.scalar text .other, c)

/-- A tag, which must end at a gap or, inside a flow, at a comma. -/
def readTagEnd (s : Scan) (c : Cursor) : Option (Token × Cursor) := do
  let (t, c) ← readTag c
  if c.gapAt 0 || (s.inFlow && c.isAt ',') then return (t, c) else none

/-- The next token, where there is one. -/
def step (s : Scan) : Option Scan :=
  let c := s.cursor
  if c.column == 0 && c.isAt '%' then do
    let s ← (s.unroll (-1)).dropKey
    let (t, c) ← readDirective c
    return { s with keyAllowed := false, cursor := c }.emit t
  else if c.atMarker '-' then s.marker .documentStart
  else if c.atMarker '.' then s.marker .documentEnd
  else match c.at? 0 with
  | none => none
  | some '[' => s.openFlow .openBracket
  | some '\x7b' => s.openFlow .openBrace
  | some ']' => s.closeFlow .closeBracket
  | some '\x7d' => s.closeFlow .closeBrace
  | some ',' => do
    let s ← s.dropKey
    return { s with keyAllowed := true, cursor := c.skip 1 }.emit .comma
  | some '*' => s.readNode fun c => do
    let (name, c) ← readName (c.skip 1)
    return (.alias name, c)
  | some '&' => s.readNode fun c => do
    let (name, c) ← readName (c.skip 1)
    return (.anchor name, c)
  | some '!' => s.readNode s.readTagEnd
  | some '\'' => s.readNode (readQuoted true)
  | some '"' => s.readNode (readQuoted false)
  | some ch =>
    if ch == '-' && c.gapAt 1 then s.readEntry
    else if ch == '?' && (s.inFlow || c.gapAt 1) then s.readKey
    else if ch == ':' && (s.inFlow || c.gapAt 1) then s.readValue
    else if ch == '|' && !s.inFlow then s.readBlock true
    else if ch == '>' && !s.inFlow then s.readBlock false
    else if s.startsPlain then s.readPlain
    else none

/-- All tokens from a place on. -/
def run : (fuel : Nat) → Scan → Option (List Token)
  | 0, _ => none
  | fuel + 1, s => do
    let s ← (skipToToken (s.cursor.size + 1) s).refreshKeys
    if s.cursor.rest.isEmpty then
      let s ← (s.unroll (-1)).dropKey
      return s.tokens.reverse
    else run fuel (← (s.unroll s.cursor.column).step)

end Scan

/-- The tokens of a text. Every token but the last takes at least one character. -/
def tokens? (text : String) : Option (List Token) :=
  let cs := text.toList
  let cs := if cs.head? == some '\ufeff' then cs.drop 1 else cs
  if cs.all isAllowed then Scan.run (cs.length + 1) (Scan.start cs) else none

end SceneMarkup.Yaml
