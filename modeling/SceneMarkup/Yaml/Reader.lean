import SceneMarkup.Yaml.Token

/-!
# Reading YAML documents

The tree of the only document of a text. Missing nodes are empty scalars. An anchor has as its number that of the names used
before it, and an alias refers to the number that its name has where it stands. A name that is used again gets a new number
without being counted again, so it may share that number with the next new name; the later node then has it.
-/

namespace SceneMarkup.Yaml

/-- What the reader knows at a place: the tokens that follow, the numbers of the anchors by their names, each of which is
there once, and the nodes with anchors, the last one to begin first. -/
structure Reading where
  tokens : List Token
  numbers : List (String × Nat)
  anchored : Anchored

/-- What tag handles stand for. -/
abbrev Handles := List (String × String)

/-- The handles that need no directive. -/
def defaultHandles : Handles :=
  [("!", "!"), ("!!", "tag:yaml.org,2002:")]

namespace Reading

/-- The next token. -/
def next? (r : Reading) : Option Token := r.tokens.head?

/-- The place after the next token. -/
def skip (r : Reading) : Reading := { r with tokens := r.tokens.tail }

/-- The next token is one of some tokens, or there is none. -/
def nextIn (r : Reading) (ts : List Token) : Bool :=
  match r.next? with
  | some t => ts.contains t
  | none => true

/-- A name is used for an anchor, which gets a number. -/
def beginAnchor (r : Reading) (name : String) : Reading :=
  { r with numbers := (name, r.numbers.length) :: r.numbers.filter (·.1 != name) }

/-- The node of an anchor has been read, which began when there were `before` nodes with anchors; those that were added since
lie inside it. -/
def endAnchor (r : Reading) (number before : Nat) (node : Yaml) : Reading :=
  let inside := r.anchored.length - before
  { r with anchored := r.anchored.take inside ++ (number, node) :: r.anchored.drop inside }

end Reading

/-- The properties of a node. -/
structure Properties where
  anchor : Option String
  tag : Option String

/-- The tag that a handle and a suffix stand for. -/
def resolveTag (handles : Handles) (handle suffix : String) : Option String :=
  if handle = "" then some suffix
  else (handles.lookup handle).map (· ++ suffix)

/-- The properties before a node, of which each kind may come once. -/
def readProperties (handles : Handles) : (left : Nat) → Properties → Reading → Option (Properties × Reading)
  | 0, p, r => some (p, r)
  | left + 1, p, r =>
    match r.next? with
    | some (.anchor name) =>
      if p.anchor.isSome then some (p, r) else readProperties handles left { p with anchor := some name } r.skip
    | some (.tag handle suffix) =>
      if p.tag.isSome then some (p, r)
      else do
        let tag ← resolveTag handles handle suffix
        readProperties handles left { p with tag := some tag } r.skip
    | _ => some (p, r)

mutual
/-- A node. Blocks are read only where `block` holds, and a sequence without indentation only where `loose` holds. -/
def readNode (handles : Handles) : (fuel : Nat) → (block loose : Bool) → Reading → Option (Yaml × Reading)
  | 0, _, _, _ => none
  | fuel + 1, block, loose, r =>
    match r.next? with
    | some (.alias name) => do return (.alias (← r.numbers.lookup name), r.skip)
    | _ => do
      let (p, r) ← readProperties handles 2 ⟨none, none⟩ r
      match p.anchor with
      | none => readContent handles fuel block loose p r
      | some name =>
        let (node, after) ← readContent handles fuel block loose p (r.beginAnchor name)
        return (node, after.endAnchor r.numbers.length r.anchored.length node)

/-- A node after its properties. The tag of a lone exclamation mark says nothing about a scalar that is written. -/
def readContent (handles : Handles) :
    (fuel : Nat) → (block loose : Bool) → Properties → Reading → Option (Yaml × Reading)
  | 0, _, _, _, _ => none
  | fuel + 1, block, loose, p, r => do
    let missing : Option (Yaml × Reading) :=
      if p.anchor.isSome || p.tag.isSome then some (Yaml.empty p.tag, r) else none
    match r.next? with
    | some .entry =>
      if loose then
        let (items, r) ← readLooseItems handles fuel [] r
        return (.sequence p.tag items, r)
      else missing
    | some (.scalar text style) =>
      return (.scalar ⟨text, style, if p.tag = some "!" then none else p.tag⟩, r.skip)
    | some .openBracket =>
      let (items, r) ← readFlowItems handles fuel true [] r.skip
      return (.sequence p.tag items, r)
    | some .openBrace =>
      let (entries, r) ← readFlowEntries handles fuel true [] r.skip
      return (.mapping p.tag entries, r)
    | some .sequenceStart =>
      if block then
        let (items, r) ← readItems handles fuel [] r.skip
        return (.sequence p.tag items, r)
      else missing
    | some .mappingStart =>
      if block then
        let (entries, r) ← readEntries handles fuel [] r.skip
        return (.mapping p.tag entries, r)
      else missing
    | _ => missing

/-- A node, or an empty scalar where one of some tokens follows. -/
def readOptional (handles : Handles) :
    (fuel : Nat) → (block loose : Bool) → (ends : List Token) → Reading → Option (Yaml × Reading)
  | 0, _, _, _, _ => none
  | fuel + 1, block, loose, ends, r =>
    if r.nextIn ends then some (Yaml.empty none, r) else readNode handles fuel block loose r

/-- The key of an item of a flow sequence. Where there is none, the token that stands in its place is passed. -/
def readItemKey (handles : Handles) : (fuel : Nat) → Reading → Option (Yaml × Reading)
  | 0, _ => none
  | fuel + 1, r =>
    if r.nextIn [.value, .comma, .closeBracket] then some (Yaml.empty none, r.skip)
    else readNode handles fuel false false r

/-- The value of an entry, which has a node only after a colon. -/
def readValueOf (handles : Handles) :
    (fuel : Nat) → (block : Bool) → (ends : List Token) → Reading → Option (Yaml × Reading)
  | 0, _, _, _ => none
  | fuel + 1, block, ends, r =>
    match r.next? with
    | some .value => readOptional handles fuel block block ends r.skip
    | _ => some (Yaml.empty none, r)

/-- The items of a block sequence, with those before in reverse. -/
def readItems (handles : Handles) : (fuel : Nat) → (done : List Yaml) → Reading → Option (List Yaml × Reading)
  | 0, _, _ => none
  | fuel + 1, done, r =>
    match r.next? with
    | some .entry => do
      let (item, r) ← readOptional handles fuel true false [.entry, .blockEnd] r.skip
      readItems handles fuel (item :: done) r
    | some .blockEnd => some (done.reverse, r.skip)
    | _ => none

/-- The items of a sequence without indentation, with those before in reverse. -/
def readLooseItems (handles : Handles) : (fuel : Nat) → (done : List Yaml) → Reading → Option (List Yaml × Reading)
  | 0, _, _ => none
  | fuel + 1, done, r =>
    match r.next? with
    | some .entry => do
      let (item, r) ← readOptional handles fuel true false [.entry, .key, .value, .blockEnd] r.skip
      readLooseItems handles fuel (item :: done) r
    | _ => some (done.reverse, r)

/-- The entries of a block mapping, with those before in reverse. -/
def readEntries (handles : Handles) :
    (fuel : Nat) → (done : List (Yaml × Yaml)) → Reading → Option (List (Yaml × Yaml) × Reading)
  | 0, _, _ => none
  | fuel + 1, done, r =>
    match r.next? with
    | some .key => do
      let (key, r) ← readOptional handles fuel true true [.key, .value, .blockEnd] r.skip
      let (value, r) ← readValueOf handles fuel true [.key, .value, .blockEnd] r
      readEntries handles fuel ((key, value) :: done) r
    | some .blockEnd => some (done.reverse, r.skip)
    | _ => none

/-- The items of a flow sequence, with those before in reverse. An item with a colon is a mapping of one entry. -/
def readFlowItems (handles : Handles) :
    (fuel : Nat) → (first : Bool) → (done : List Yaml) → Reading → Option (List Yaml × Reading)
  | 0, _, _, _ => none
  | fuel + 1, first, done, r =>
    match r.next? with
    | some .closeBracket => some (done.reverse, r.skip)
    | next => do
      let r ← if first then some r else if next = some .comma then some r.skip else none
      match r.next? with
      | some .closeBracket => return (done.reverse, r.skip)
      | some .key =>
        let (key, r) ← readItemKey handles fuel r.skip
        let (value, r) ← readValueOf handles fuel false [.comma, .closeBracket] r
        readFlowItems handles fuel false (.mapping none [(key, value)] :: done) r
      | _ =>
        let (item, r) ← readNode handles fuel false false r
        readFlowItems handles fuel false (item :: done) r

/-- The entries of a flow mapping, with those before in reverse. -/
def readFlowEntries (handles : Handles) :
    (fuel : Nat) → (first : Bool) → (done : List (Yaml × Yaml)) → Reading → Option (List (Yaml × Yaml) × Reading)
  | 0, _, _, _ => none
  | fuel + 1, first, done, r =>
    match r.next? with
    | some .closeBrace => some (done.reverse, r.skip)
    | next => do
      let r ← if first then some r else if next = some .comma then some r.skip else none
      match r.next? with
      | some .closeBrace => return (done.reverse, r.skip)
      | some .key =>
        let (key, r) ← readOptional handles fuel false false [.value, .comma, .closeBrace] r.skip
        let (value, r) ← readValueOf handles fuel false [.comma, .closeBrace] r
        readFlowEntries handles fuel false ((key, value) :: done) r
      | _ =>
        let (key, r) ← readNode handles fuel false false r
        readFlowEntries handles fuel false ((key, Yaml.empty none) :: done) r
end

/-- The directives before a document: the handles that they define. The version and each handle may be given once. -/
def readDirectives : (version : Bool) → Handles → List Token → Option (Bool × Handles × List Token)
  | version, handles, .version :: rest => if version then none else readDirectives true handles rest
  | version, handles, .tagHandle handle start :: rest =>
    if (handles.lookup handle).isSome then none else readDirectives version (handles ++ [(handle, start)]) rest
  | version, handles, rest => some (version || !handles.isEmpty, handles, rest)

/-- The content of a document at its first token and the tokens after it. -/
def readRoot (handles : Handles) (ts : List Token) : Option (YamlNode × List Token) :=
  match ts with
  | [] | .documentStart :: _ | .documentEnd :: _ | .version :: _ | .tagHandle _ _ :: _ => some (⟨[], Yaml.empty none⟩, ts)
  | _ => do
    let (root, r) ← readNode handles (8 * (ts.length + 1)) true false ⟨ts, [], []⟩
    return (⟨r.anchored, root⟩, r.tokens)

/-- The tokens after the ends of a document. -/
def skipEnds (ts : List Token) : List Token := ts.dropWhile (· == .documentEnd)

/-- The only document of a list of tokens. No document at all is one without contents. -/
def readStream (ts : List Token) : Option YamlNode := do
  let (given, handles, body) ← readDirectives false [] ts
  let single (content : List Token) : Option YamlNode := do
    let (root, rest) ← readRoot (handles ++ defaultHandles) content
    if (skipEnds rest).isEmpty then return root else none
  match body with
  | .documentStart :: rest => single rest
  | .documentEnd :: _ => none
  | _ => if given then none else single body

end Yaml

/-- The only document of a YAML text. -/
def YamlNode.read? (text : String) : Option YamlNode := do
  Yaml.readStream (← Yaml.tokens? text)

end SceneMarkup
