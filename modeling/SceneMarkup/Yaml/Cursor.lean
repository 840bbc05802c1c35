import SceneMarkup.Json.Reader
import SceneMarkup.Yaml.Basic

/-!
# Reading the characters of a YAML text

A cursor is a place in a text with its line and column. Indentation is counted in columns, so every step of the reader moves
the cursor through `skip` and `skipBreak`. No loop takes more steps than the text has characters.
-/

namespace SceneMarkup.Yaml

/-- A place in a text. -/
structure Cursor where
  /-- The number of characters of the whole text. -/
  size : Nat
  rest : List Char
  index : Nat
  line : Nat
  column : Nat

/-- The character is a blank inside a line. -/
def isInlineBlank (c : Char) : Bool :=
  c == ' ' || c == '\t'

/-- The character ends a line. -/
def isLineBreak (c : Char) : Bool :=
  c == '\n' || c == '\r' || c == '\x85' || c == '\u2028' || c == '\u2029'

/-- The character may stand in a YAML text. -/
def isAllowed (c : Char) : Bool :=
  c == '\t' || c == '\n' || c == '\r' || (' ' ≤ c && c ≤ '~') || c == '\x85' ||
    ('\xa0' ≤ c && c ≤ '\ufffd') || 0x10000 ≤ c.toNat

/-- The character may stand in the name of an anchor. -/
def isNameChar (c : Char) : Bool :=
  (c.isAlphanum || c == '_') || c == '-'

namespace Cursor

/-- The start of a text. -/
def start (text : List Char) : Cursor := ⟨text.length, text, 0, 0, 0⟩

/-- The character at some distance. -/
def at? (c : Cursor) (n : Nat) : Option Char := c.rest[n]?

/-- The next character is a given one. -/
def isAt (c : Cursor) (ch : Char) : Bool := c.at? 0 == some ch

/-- There is a blank, a line's end or the text's end at some distance. -/
def gapAt (c : Cursor) (n : Nat) : Bool :=
  match c.at? n with
  | none => true
  | some ch => isInlineBlank ch || isLineBreak ch

/-- There is a line's end or the text's end here. -/
def atLineEnd (c : Cursor) : Bool :=
  match c.at? 0 with
  | none => true
  | some ch => isLineBreak ch

/-- There is a blank inside a line here. -/
def atBlank (c : Cursor) : Bool := (c.at? 0).any isInlineBlank

/-- There is a line's end here. -/
def atBreak (c : Cursor) : Bool := (c.at? 0).any isLineBreak

/-- The place after some characters of the same line. -/
def skip (c : Cursor) (n : Nat) : Cursor :=
  { c with rest := c.rest.drop n, index := c.index + n, column := c.column + n }

/-- The characters that a line's end stands for, and the place after it. -/
def takeBreak (c : Cursor) : List Char × Cursor :=
  match c.rest with
  | '\r' :: '\n' :: rest => (['\n'], ⟨c.size, rest, c.index + 2, c.line + 1, 0⟩)
  | ch :: rest =>
    (if ch == '\u2028' || ch == '\u2029' then [ch] else ['\n'], ⟨c.size, rest, c.index + 1, c.line + 1, 0⟩)
  | [] => ([], c)

/-- The place after a line's end. -/
def skipBreak (c : Cursor) : Cursor := c.takeBreak.2

/-- The characters of this line as long as they fulfil a condition, and the place after them. -/
def takeWhile (c : Cursor) (p : Char → Bool) : List Char × Cursor :=
  let run := c.rest.takeWhile p
  (run, c.skip run.length)

/-- The place after the blanks of this line. -/
def skipBlanks (c : Cursor) : Cursor := (c.takeWhile isInlineBlank).2

/-- The place at the end of this line. -/
def skipLine (c : Cursor) : Cursor := (c.takeWhile (!isLineBreak ·)).2

/-- A marker of a document's start or end stands here. -/
def atMarker (c : Cursor) (ch : Char) : Bool :=
  c.column == 0 && c.at? 0 == some ch && c.at? 1 == some ch && c.at? 2 == some ch && c.gapAt 3

/-- A marker of either kind stands here. -/
def atAnyMarker (c : Cursor) : Bool := c.atMarker '-' || c.atMarker '.'

/-- The place after the rest of a line that holds at most a comment. -/
def endLine? (c : Cursor) : Option Cursor :=
  let c := c.skipBlanks
  let c := if c.isAt '#' then c.skipLine else c
  if c.atLineEnd then some (if c.atBreak then c.skipBreak else c) else none

end Cursor

/-! ## Folding lines -/

/-- The blanks and line ends between two words. -/
structure Gap where
  /-- Blanks before the first line's end. -/
  blanks : List Char
  /-- The first line's end. -/
  first : List Char
  /-- The further ones. -/
  further : List Char
  /-- There is a line's end, or one was escaped. -/
  broken : Bool

namespace Gap

/-- No gap. -/
def none : Gap := ⟨[], [], [], false⟩

/-- What a gap stands for: blanks for themselves, one line's end for a blank, several for one less. -/
def text (g : Gap) : List Char :=
  if g.broken then
    if g.first == ['\n'] then (if g.further.isEmpty then [' '] else g.further) else g.first ++ g.further
  else g.blanks

/-- The gap at a place, after a part of it. No tab may stand before the column `indent` of a new line. -/
def read (indent : Nat) : (fuel : Nat) → Gap → Cursor → Option (Gap × Cursor)
  | 0, g, c => some (g, c)
  | fuel + 1, g, c =>
    match c.at? 0 with
    | Option.none => some (g, c)
    | some ch =>
      if isInlineBlank ch then
        if g.broken && ch == '\t' && c.column < indent then Option.none
        else read indent fuel (if g.broken then g else { g with blanks := g.blanks ++ [ch] }) (c.skip 1)
      else if isLineBreak ch then
        let (lineEnd, c) := c.takeBreak
        let g := if g.broken then { g with further := g.further ++ lineEnd }
          else { g with blanks := [], first := lineEnd, broken := true }
        read indent fuel g c
      else some (g, c)

end Gap

/-! ## Scalars -/

/-- The character may end a plain scalar inside a flow. -/
def isFlowMark (c : Char) : Bool :=
  c == ',' || c == '[' || c == ']' || c == '\x7b' || c == '\x7d'

/-- A word of a plain scalar. Inside a flow no colon may stand before another mark. -/
def plainWord (inFlow : Bool) : (fuel : Nat) → (done : List Char) → Cursor → Option (List Char × Cursor)
  | 0, done, c => some (done.reverse, c)
  | fuel + 1, done, c =>
    match c.at? 0 with
    | none => some (done.reverse, c)
    | some ch =>
      if isInlineBlank ch || isLineBreak ch then some (done.reverse, c)
      else if inFlow && ch == ':' && (c.at? 1).any (fun d => isFlowMark d || d == '?') then none
      else if (ch == ':' && c.gapAt 1) || (inFlow && isFlowMark ch) then some (done.reverse, c)
      else plainWord inFlow fuel (ch :: done) (c.skip 1)

/-- A plain scalar from one of its words on: its text, the place after it and whether a line's end was passed since its last
word. `indent` is the column that its further lines must reach outside a flow. -/
def plainScalar (inFlow : Bool) (indent : Nat) :
    (fuel : Nat) → (done : List Char) → Gap → Cursor → Option (String × Cursor × Bool)
  | 0, _, _, _ => none
  | fuel + 1, done, g, c =>
    if c.atAnyMarker || c.isAt '#' then some (String.ofList done, c, g.broken)
    else do
      let (word, c) ← plainWord inFlow c.size [] c
      let (done, g) := if word.isEmpty then (done, g) else (done ++ g.text ++ word, Gap.none)
      if c.atBlank || c.atBreak then
        let (g, c) ← Gap.read indent c.size (if word.isEmpty then g else Gap.none) c
        if !inFlow && c.column < indent then some (String.ofList done, c, g.broken)
        else plainScalar inFlow indent fuel done g c
      else some (String.ofList done, c, g.broken)

/-- The characters of escapes of one letter. -/
def escapes : List (Char × Char) :=
  [('0', '\x00'), ('a', '\x07'), ('b', '\x08'), ('t', '\t'), ('\t', '\t'), ('n', '\n'), ('v', '\x0b'), ('f', '\x0c'),
   ('r', '\r'), ('e', '\x1b'), (' ', ' '), ('"', '"'), ('/', '/'), ('\\', '\\'), ('N', '\x85'), ('_', '\xa0'),
   ('L', '\u2028'), ('P', '\u2029')]

/-- The number of hexadecimal digits after the letter of an escape. -/
def escapeLength? (c : Char) : Option Nat :=
  if c == 'x' then some 2 else if c == 'u' then some 4 else if c == 'U' then some 8 else none

/-- The character of a code point that is written with hexadecimal digits. -/
def charOfHex? (digits : List Char) : Option Char := do
  let values ← digits.mapM Json.hexValue?
  let code := values.foldl (fun n d => 16 * n + d) 0
  if (0xD800 ≤ code ∧ code ≤ 0xDFFF) ∨ 0x10FFFF < code then none else some (Char.ofNat code)

/-- The character of an escape after its backslash, and the place after it. -/
def readEscape (c : Cursor) : Option (Char × Cursor) := do
  let letter ← c.at? 0
  match escapes.lookup letter with
  | some ch => return (ch, c.skip 1)
  | none =>
    let n ← escapeLength? letter
    let digits := (c.rest.drop 1).take n
    if digits.length = n then return (← charOfHex? digits, c.skip (n + 1)) else none

/-- A word of a quoted scalar, the place after it and whether an escaped line's end follows it. -/
def quotedWord (single : Bool) : (fuel : Nat) → (done : List Char) → Cursor → Option (List Char × Cursor × Bool)
  | 0, _, _ => none
  | fuel + 1, done, c =>
    match c.at? 0 with
    | none => some (done.reverse, c, false)
    | some ch =>
      if isInlineBlank ch || isLineBreak ch then some (done.reverse, c, false)
      else if single && ch == '\'' && c.at? 1 == some '\'' then quotedWord single fuel ('\'' :: done) (c.skip 2)
      else if ch == (if single then '\'' else '"') then some (done.reverse, c, false)
      else if !single && ch == '\\' then
        if (c.at? 1).any isLineBreak then some (done.reverse, (c.skip 1).skipBreak, true)
        else do
          let (ch, c) ← readEscape (c.skip 1)
          quotedWord single fuel (ch :: done) c
      else quotedWord single fuel (ch :: done) (c.skip 1)

/-- A quoted scalar after its opening quote, and the place after its closing quote. -/
def quotedScalar (single : Bool) : (fuel : Nat) → (done : List Char) → Cursor → Option (String × Cursor)
  | 0, _, _ => none
  | fuel + 1, done, c =>
    if c.atAnyMarker || c.rest.isEmpty then none
    else do
      let (word, c, escaped) ← quotedWord single (c.size + 1) [] c
      let done := done ++ word
      if !escaped && c.isAt (if single then '\'' else '"') then return (String.ofList done, c.skip 1)
      let (g, c) ← Gap.read 0 c.size { Gap.none with broken := escaped } c
      quotedScalar single fuel (done ++ g.text) c

/-- How the lines at the end of a block scalar are treated. -/
inductive Chomping where
  | strip | clip | keep
deriving DecidableEq

/-- The marks after the start of a block scalar: how it ends, and by how much it is indented. -/
def blockHeader (c : Cursor) : Option (Chomping × Option Nat × Cursor) :=
  let chomping? (c : Cursor) : Option Chomping :=
    if c.isAt '+' then some .keep else if c.isAt '-' then some .strip else none
  let digit? (c : Cursor) : Option Nat := (c.at? 0).bind fun ch => if ch.isDigit then some (ch.toNat - 48) else none
  let checked (m : Chomping) (n : Option Nat) (c : Cursor) : Option (Chomping × Option Nat × Cursor) :=
    if n = some 0 then none else some (m, n, c)
  match chomping? c with
  | some m =>
    let c := c.skip 1
    match digit? c with
    | some n => checked m (some n) (c.skip 1)
    | none => checked m none c
  | none =>
    match digit? c with
    | some n =>
      let c := c.skip 1
      match chomping? c with
      | some m => checked m (some n) (c.skip 1)
      | none => checked .clip (some n) c
    | none => checked .clip none c

/-- The empty lines before a line of a block scalar: their ends, the deepest column seen and the place after them. With
`indent` zero every blank is passed, otherwise those before that column. -/
def blockBreaks (indent : Nat) :
    (fuel : Nat) → (ends : List Char) → (deepest : Nat) → Cursor → Option (List Char × Nat × Cursor)
  | 0, ends, deepest, c => some (ends, deepest, c)
  | fuel + 1, ends, deepest, c =>
    let open? (c : Cursor) : Bool := indent == 0 || c.column < indent
    if open? c && c.isAt ' ' then blockBreaks indent fuel ends deepest (c.skip 1)
    else
      let deepest := max deepest c.column
      if open? c && c.isAt '\t' then none
      else if c.atBreak then
        let (lineEnd, c) := c.takeBreak
        blockBreaks indent fuel (ends ++ lineEnd) deepest c
      else some (ends, deepest, c)

/-- The lines of a block scalar from one of them on. `pending` is the last line's end, `ends` are the empty lines after it,
and `blankBefore` says that the line before starts with a blank. -/
def blockLines (literal : Bool) (indent : Nat) :
    (fuel : Nat) → (done pending ends : List Char) → (blankBefore : Bool) → Cursor →
      Option (List Char × List Char × List Char × Cursor)
  | 0, _, _, _, _, _ => none
  | fuel + 1, done, pending, ends, blankBefore, c =>
    if c.column == indent && !c.rest.isEmpty then do
      let blank := c.atBlank
      let joined :=
        if !literal && pending == ['\n'] && !blankBefore && !blank then (if ends.isEmpty then [' '] else [])
        else pending
      let (line, c) := c.takeWhile (!isLineBreak ·)
      let (lineEnd, c) := c.takeBreak
      let (ends', _, c) ← blockBreaks indent (c.size + 1) [] 0 c
      blockLines literal indent fuel (done ++ joined ++ ends ++ line) lineEnd ends' blank c
    else some (done, pending, ends, c)

/-- A block scalar after its first mark, inside a block of a given indentation. -/
def blockScalar (literal : Bool) (parent : Int) (c : Cursor) : Option (String × Cursor) := do
  let (chomping, increment, c) ← blockHeader c
  let c ← c.endLine?
  let fixed : Nat := match increment with
    | some n => (if 0 ≤ parent then parent.toNat else 0) + n
    | none => 0
  let (ends, deepest, c) ← blockBreaks fixed (c.size + 1) [] 0 c
  let indent := if fixed = 0 then max (max deepest (parent + 1).toNat) 1 else fixed
  let (done, pending, ends, c) ← blockLines literal indent (c.size + 2) [] [] ends false c
  let tail := match chomping with
    | .strip => []
    | .clip => pending
    | .keep => pending ++ ends
  return (String.ofList (done ++ tail), c)

end SceneMarkup.Yaml
