import SceneMarkup.Text.CharacterSets
import SceneMarkup.Ui.Node

/-!
# A reader of markup

The reader knows elements with start tags and end tags, empty elements, attributes between double quotes, the five entities,
and comments, which it passes over. Between tags there is white space and nothing else, and an attribute value is what stands
between its quotes. The text is taken one character at a time (`Reader.step`); which characters are white space is up to whoever
reads.
-/

namespace SceneMarkup.Markup

/-- An element: its tag, its attributes in their order, and the elements inside it. -/
inductive Element where
  | mk (tag : String) (attributes : List (String × String)) (children : List Element)

/-- The entities that stand for a character with a meaning in markup. -/
def entities : List (String × Char) :=
  [("amp", '&'), ("lt", '<'), ("gt", '>'), ("quot", '"'), ("apos", '\'')]

/-- The characters of names: neither white space nor one with a meaning in tags. -/
def isNameChar (space : Char → Bool) (c : Char) : Bool :=
  !space c && !(['=', '"', '\'', '<', '>', '&', '/'].contains c)

/-- The text is a name. -/
def IsName (space : Char → Bool) (name : String) : Prop :=
  name ≠ "" ∧ name.toList.all (isNameChar space) = true

instance (space : Char → Bool) (name : String) : Decidable (IsName space name) :=
  inferInstanceAs (Decidable (_ ∧ _))

/-- A tag with the attributes that have been read so far. -/
structure StartTag where
  name : String
  attributes : List (String × String)

/-- Where the reader is in a text. What it has of a name, a value or an entity so far is in reverse. -/
inductive Place where
  /-- Between tags. -/
  | between
  /-- Behind the opening bracket of a tag. -/
  | bracket
  /-- Behind the mark that opens a comment, or behind its first dash. -/
  | mark (dash : Bool)
  /-- In a comment, behind some dashes in a row. -/
  | comment (dashes : Nat)
  /-- In the name of an end tag. -/
  | endName (name : List Char)
  /-- In the name of a start tag. -/
  | startName (name : List Char)
  /-- Behind an attribute of a start tag. -/
  | behind (t : StartTag)
  /-- Behind white space in a start tag. -/
  | inside (t : StartTag)
  /-- In the name of an attribute. -/
  | attribute (t : StartTag) (name : List Char)
  /-- Before the value of an attribute. -/
  | quote (t : StartTag) (name : String)
  /-- In the value of an attribute. -/
  | value (t : StartTag) (name : String) (value : List Char)
  /-- In an entity of a value. -/
  | entity (t : StartTag) (name : String) (value entity : List Char)
  /-- Behind the slash that closes an empty element. -/
  | slash (t : StartTag)

/-- The reader in the middle of a text. -/
structure Reader where
  /-- The elements that are open, the innermost first, each with the elements before it. -/
  opened : List (StartTag × List Element)
  /-- The elements that have been read in the innermost open one. -/
  done : List Element
  place : Place

namespace Reader

/-- The reader at another place. -/
def goTo (r : Reader) (p : Place) : Reader :=
  { r with place := p }

/-- The reader between tags, behind further elements. -/
def add (r : Reader) (es : List Element) : Reader :=
  ⟨r.opened, r.done ++ es, .between⟩

/-- The reader at the start of what is inside an element. -/
def openElement (r : Reader) (t : StartTag) : Reader :=
  ⟨(t, r.done) :: r.opened, [], .between⟩

/-- The reader behind the end of the innermost open element, which has to have the name. -/
def closeElement (r : Reader) (name : String) : Option Reader :=
  match r.opened with
  | [] => none
  | (t, before) :: opened =>
    if t.name = name then some ⟨opened, before ++ [.mk t.name t.attributes r.done], .between⟩ else none

/-- Takes a character that ends a part of a start tag. -/
def endPart (space : Char → Bool) (r : Reader) (t : StartTag) (c : Char) : Option Reader :=
  if space c then some (r.goTo (.inside t))
  else if c = '/' then some (r.goTo (.slash t))
  else if c = '>' then some (r.openElement t)
  else none

/-- Takes one character. Two dashes in a row end a comment, and no opening bracket may stand in a value. -/
def step (space : Char → Bool) (r : Reader) (c : Char) : Option Reader :=
  match r.place with
  | .between => if space c then some r else if c = '<' then some (r.goTo .bracket) else none
  | .bracket =>
    if c = '!' then some (r.goTo (.mark false))
    else if c = '/' then some (r.goTo (.endName []))
    else if isNameChar space c then some (r.goTo (.startName [c]))
    else none
  | .mark dash => if c = '-' then some (r.goTo (if dash then .comment 0 else .mark true)) else none
  | .comment dashes =>
    if dashes = 2 then if c = '>' then some (r.goTo .between) else none
    else some (r.goTo (.comment (if c = '-' then dashes + 1 else 0)))
  | .endName name =>
    if isNameChar space c then some (r.goTo (.endName (c :: name)))
    else if c = '>' then r.closeElement (String.ofList name.reverse)
    else none
  | .startName name =>
    if isNameChar space c then some (r.goTo (.startName (c :: name)))
    else r.endPart space ⟨String.ofList name.reverse, []⟩ c
  | .behind t => r.endPart space t c
  | .inside t => if isNameChar space c then some (r.goTo (.attribute t [c])) else r.endPart space t c
  | .attribute t name =>
    if isNameChar space c then some (r.goTo (.attribute t (c :: name)))
    else if c = '=' then some (r.goTo (.quote t (String.ofList name.reverse)))
    else none
  | .quote t name => if c = '"' then some (r.goTo (.value t name [])) else none
  | .value t name value =>
    if c = '"' then some (r.goTo (.behind ⟨t.name, t.attributes ++ [(name, String.ofList value.reverse)]⟩))
    else if c = '&' then some (r.goTo (.entity t name value []))
    else if c = '<' then none
    else some (r.goTo (.value t name (c :: value)))
  | .entity t name value entity =>
    if c = ';' then (entities.lookup (String.ofList entity.reverse)).map fun e => r.goTo (.value t name (e :: value))
    else some (r.goTo (.entity t name value (c :: entity)))
  | .slash t => if c = '>' then some (r.add [.mk t.name t.attributes []]) else none

end Reader

/-- The elements of a text in their order; at its end everything has to be closed. -/
def read? (space : Char → Bool) (text : String) : Option (List Element) :=
  match text.toList.foldlM (Reader.step space) ⟨[], [], .between⟩ with
  | some ⟨[], done, .between⟩ => some done
  | _ => none

example : read? Char.isWhitespace "<!-- a - b -->\n<A x=\"&lt;&amp;amp;\">\n  <B />\n</A>\n" =
    some [.mk "A" [("x", "<&amp;")] [.mk "B" [] []]] := by
  rfl

-- Neither two dashes in a comment nor another tag at the end of an element are accepted.
example : read? Char.isWhitespace "<!-- a -- b -->\n<A />\n" = none := by
  rfl

example : read? Char.isWhitespace "<A>\n</B>\n" = none := by
  rfl

end SceneMarkup.Markup
