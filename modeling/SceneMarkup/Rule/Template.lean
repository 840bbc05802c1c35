import SceneMarkup.Logged
import SceneMarkup.Rule.Expr.Evaluation
import SceneMarkup.Rule.Expr.Parser

/-!
# Expressions and templates as text

What a configuration holds is the text of an expression. Its value is found by parsing and then evaluating it; an error of
either step is reported with the text it belongs to. A template is a text with placeholders: expressions between braces, whose
values take their places. When one of them has no value the template is left as it is.
-/

namespace SceneMarkup.Rule

/-! ## Expressions -/

/-- Why the text of an expression has no value. -/
inductive ExpressionError where
  | parse (e : ParseError)
  | eval (e : EvalError)
deriving DecidableEq

/-- The text for people. -/
def ExpressionError.message : ExpressionError → String
  | .parse e => e.message
  | .eval e => e.message

/-- The error of the expression written as `source`. -/
def ExpressionError.of (source : String) (e : ExpressionError) : SceneError :=
  .expression source e.message

/-- The expression that a text is. -/
def parseSource (source : String) : Except ExpressionError Expr :=
  (Expr.parse source).mapError .parse

/-- The value of an expression in a context. -/
def evaluateExpr (e : Expr) (c : Context) : Except ExpressionError Value :=
  (e.evaluate c).mapError .eval

/-- The value of the expression that a text is. -/
def evaluateSource (source : String) (c : Context) : Except ExpressionError Value := do
  evaluateExpr (← parseSource source) c

/-! ## Templates -/

/-- A part of a template. -/
inductive Segment where
  | text (cs : List Char)
  | placeholder (cs : List Char)
deriving DecidableEq, Repr

namespace Segment

/-- The segments of a template from some place on. `opened` holds, in reverse, what has followed an opening brace that is not
closed yet. A brace that is never closed, or is closed at once, is text. -/
def split : (opened : Option (List Char)) → List Char → List Segment
  | none, [] => []
  | some inner, [] => [.text ('\x7b' :: inner.reverse)]
  | none, c :: rest => if c = '\x7b' then split (some []) rest else .text [c] :: split none rest
  | some [], c :: rest =>
    if c = '\x7d' then .text ['\x7b', '\x7d'] :: split none rest else split (some [c]) rest
  | some inner, c :: rest =>
    if c = '\x7d' then .placeholder inner.reverse :: split none rest else split (some (c :: inner)) rest

/-- The characters of a segment in a context: a placeholder has those of its value. -/
def fill (c : Context) : Segment → Except SceneError (List Char)
  | .text cs => .ok cs
  | .placeholder cs =>
    let source := String.ofList (trimBlank cs)
    match evaluateSource source c with
    | .ok v => .ok v.chars
    | .error e => .error (e.of source)

/-- The characters of the segments in a context, or the first error. -/
def fillAll (c : Context) : List Segment → Except SceneError (List Char)
  | [] => .ok []
  | s :: rest => do
    let cs ← s.fill c
    return cs ++ (← fillAll c rest)

end Segment

/-- The text of a template in a context. -/
def renderTemplate (template : String) (c : Context) : Logged String :=
  match Segment.fillAll c (Segment.split none template.toList) with
  | .ok cs => pure (String.ofList cs)
  | .error e => do
    Logged.warn ("template '" ++ template ++ "' left unrendered: " ++ e.message)
    return template

end SceneMarkup.Rule
