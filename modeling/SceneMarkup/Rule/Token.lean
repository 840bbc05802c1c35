import SceneMarkup.Decimal.Layout
import SceneMarkup.Text.CharacterSets
import SceneMarkup.Text.Quoted

/-!
# Tokens of the rule language

An expression is made of numbers, quoted texts, words and symbols, with blanks between them where needed. A symbol is
always read as long as possible.
-/

namespace SceneMarkup.Rule

/-- The symbols of the language. -/
inductive Symbol where
  | equal | notEqual | lessEqual | greaterEqual | andSign | orSign
  | less | greater | plus | minus | times | divide | modulo
  | openParen | closeParen | openBracket | closeBracket | comma | notSign
deriving DecidableEq, Repr

/-- The characters of a symbol. -/
def Symbol.text : Symbol → String
  | .equal => "=="
  | .notEqual => "!="
  | .lessEqual => "<="
  | .greaterEqual => ">="
  | .andSign => "&&"
  | .orSign => "||"
  | .less => "<"
  | .greater => ">"
  | .plus => "+"
  | .minus => "-"
  | .times => "*"
  | .divide => "/"
  | .modulo => "%"
  | .openParen => "("
  | .closeParen => ")"
  | .openBracket => "["
  | .closeBracket => "]"
  | .comma => ","
  | .notSign => "!"

/-- A token. -/
inductive Token where
  | number (x : Float)
  | str (s : String)
  | word (s : String)
  | symbol (s : Symbol)
deriving DecidableEq

/-- The text of a token in a message: its kind and, in parentheses, what it holds. -/
def Token.describe : Token → String
  | .number x => "Number(" ++ String.ofList (tokenNumber x) ++ ")"
  | .str s => "Str(" ++ String.ofList (quoted s) ++ ")"
  | .word s => "Ident(" ++ String.ofList (quoted s) ++ ")"
  | .symbol s => "Symbol(" ++ String.ofList (quoted s.text) ++ ")"

/-- Why a text is not an expression. -/
inductive ParseError where
  | invalidNumber (text : String)
  | unterminatedText
  | assignment
  | unexpectedCharacter (c : Char)
  | unexpectedEnd
  | unexpectedKeyword (word : String)
  | unexpectedSymbol (s : Symbol)
  | expectedSymbol (s : Symbol)
  | unexpectedToken (t : Token)
deriving DecidableEq

/-- The text for people. -/
def ParseError.message : ParseError → String
  | .invalidNumber text => "invalid number '" ++ text ++ "'"
  | .unterminatedText => "unterminated string literal"
  | .assignment => "assignment is not allowed, use '=='"
  | .unexpectedCharacter c => "unexpected character '" ++ String.ofList [c] ++ "'"
  | .unexpectedEnd => "unexpected end of expression"
  | .unexpectedKeyword word => "unexpected keyword '" ++ word ++ "'"
  | .unexpectedSymbol s => "unexpected '" ++ s.text ++ "'"
  | .expectedSymbol s => "expected '" ++ s.text ++ "'"
  | .unexpectedToken t => "unexpected token " ++ t.describe

namespace Token

/-- The character may stand in a number. -/
def isNumberChar (c : Char) : Bool :=
  c.isDigit || c == '.'

/-- The character may start a word. -/
def isWordStart (c : Char) : Bool :=
  isLetter c || c == '_'

/-- The character may stand in a word after its start. -/
def isWordChar (c : Char) : Bool :=
  isLetterOrDigit c || c == '_'

/-- The value of a run of digits and points, which may have one point. -/
def numberValue? (text : List Char) : Option Float :=
  let whole := text.takeWhile Char.isDigit
  match text.dropWhile Char.isDigit with
  | [] => some (Decimal.ofParts whole [] 0).toFloat
  | _ :: fraction =>
    if fraction.all Char.isDigit then some (Decimal.ofParts whole fraction 0).toFloat else none

/-- The rest of a quoted text after its opening quote, and what follows its closing quote. After a backslash any character
stands for itself. -/
def readQuoted (quote : Char) : List Char → Option (List Char × List Char)
  | [] => none
  | '\\' :: [] => none
  | '\\' :: c :: rest => (readQuoted quote rest).map fun (text, after) => (c :: text, after)
  | c :: rest =>
    if c = quote then some ([], rest) else (readQuoted quote rest).map fun (text, after) => (c :: text, after)

/-- The symbol at the start of a text and what follows it. -/
def readSymbol : List Char → Except ParseError (Symbol × List Char)
  | '=' :: '=' :: rest => .ok (.equal, rest)
  | '!' :: '=' :: rest => .ok (.notEqual, rest)
  | '<' :: '=' :: rest => .ok (.lessEqual, rest)
  | '>' :: '=' :: rest => .ok (.greaterEqual, rest)
  | '&' :: '&' :: rest => .ok (.andSign, rest)
  | '|' :: '|' :: rest => .ok (.orSign, rest)
  | '<' :: rest => .ok (.less, rest)
  | '>' :: rest => .ok (.greater, rest)
  | '+' :: rest => .ok (.plus, rest)
  | '-' :: rest => .ok (.minus, rest)
  | '*' :: rest => .ok (.times, rest)
  | '/' :: rest => .ok (.divide, rest)
  | '%' :: rest => .ok (.modulo, rest)
  | '(' :: rest => .ok (.openParen, rest)
  | ')' :: rest => .ok (.closeParen, rest)
  | '[' :: rest => .ok (.openBracket, rest)
  | ']' :: rest => .ok (.closeBracket, rest)
  | ',' :: rest => .ok (.comma, rest)
  | '!' :: rest => .ok (.notSign, rest)
  | '=' :: _ => .error .assignment
  | c :: _ => .error (.unexpectedCharacter c)
  | [] => .error .unexpectedEnd

/-- A number starts at these characters. -/
def startsNumber : List Char → Bool
  | '.' :: d :: _ => d.isDigit
  | d :: _ => d.isDigit
  | [] => false

/-- The token at the start of a text that does not start with a blank, and what follows it. -/
def next (c : Char) (rest : List Char) : Except ParseError (Token × List Char) :=
  if startsNumber (c :: rest) then
    let text := c :: rest.takeWhile isNumberChar
    match numberValue? text with
    | some x => .ok (.number x, rest.dropWhile isNumberChar)
    | none => .error (.invalidNumber (String.ofList text))
  else if c = '\'' ∨ c = '"' then
    match readQuoted c rest with
    | some (text, after) => .ok (.str (String.ofList text), after)
    | none => .error .unterminatedText
  else if isWordStart c then
    .ok (.word (String.ofList (c :: rest.takeWhile isWordChar)), rest.dropWhile isWordChar)
  else do
    let (s, after) ← readSymbol (c :: rest)
    return (.symbol s, after)

/-- Passing characters leaves no more than there were. -/
theorem length_dropWhile (p : Char → Bool) (cs : List Char) : (cs.dropWhile p).length ≤ cs.length :=
  (List.dropWhile_suffix p).length_le

/-- What follows a quoted text is shorter than the text from its start on. -/
theorem length_readQuoted {quote : Char} {cs text after : List Char} (h : readQuoted quote cs = some (text, after)) :
    after.length < cs.length := by
  fun_induction readQuoted quote cs generalizing text after with
  | case1 => simp at h
  | case2 => simp at h
  | case3 c rest ih =>
    obtain ⟨⟨t, a⟩, ht, he⟩ := Option.map_eq_some_iff.1 h
    have := ih ht
    simp only [Prod.mk.injEq] at he
    simp only [List.length_cons, ← he.2]
    omega
  | case4 rest => simp_all
  | case5 c rest _ _ _ ih =>
    obtain ⟨⟨t, a⟩, ht, he⟩ := Option.map_eq_some_iff.1 h
    have := ih ht
    simp only [Prod.mk.injEq] at he
    simp only [List.length_cons, ← he.2]
    omega

/-- What follows a symbol is shorter than the text from its start on. -/
theorem length_readSymbol {cs after : List Char} {s : Symbol} (h : readSymbol cs = .ok (s, after)) :
    after.length < cs.length := by
  unfold readSymbol at h
  split at h <;> simp at h <;> obtain ⟨-, rfl⟩ := h <;> simp only [List.length_cons] <;> omega

/-- A token takes at least one character. -/
theorem length_next {c : Char} {rest after : List Char} {t : Token} (h : next c rest = .ok (t, after)) :
    after.length ≤ rest.length := by
  simp only [next] at h
  split at h
  · split at h
    · simp only [Except.ok.injEq, Prod.mk.injEq] at h
      exact h.2 ▸ length_dropWhile _ rest
    · simp at h
  · split at h
    · split at h
      · rename_i hq
        simp only [Except.ok.injEq, Prod.mk.injEq] at h
        exact h.2 ▸ Nat.le_of_lt (length_readQuoted hq)
      · simp at h
    · split at h
      · simp only [Except.ok.injEq, Prod.mk.injEq] at h
        exact h.2 ▸ length_dropWhile _ rest
      · cases hs : readSymbol (c :: rest) with
        | error e => rw [hs] at h; simp [bind, Except.bind] at h
        | ok p =>
          rw [hs] at h
          simp only [bind, Except.bind, pure, Except.pure, Except.ok.injEq, Prod.mk.injEq] at h
          have := @length_readSymbol (c :: rest) p.2 p.1 hs
          rw [← h.2]
          simp at this
          omega

end Token

/-- The tokens of a text. -/
def tokens (cs : List Char) : Except ParseError (List Token) :=
  match cs with
  | [] => .ok []
  | c :: rest =>
    if isBlank c then tokens rest
    else match _h : Token.next c rest with
      | .ok (t, after) => do return t :: (← tokens after)
      | .error e => .error e
termination_by cs.length
decreasing_by
  · simp
  · simpa using Nat.lt_succ_of_le (Token.length_next ‹_›)

end SceneMarkup.Rule
