import AnswerKey.Snippet.Grammar.Pattern

namespace AnswerKey
namespace Snippet
namespace Rule

open Snippet.Parser

/-!
The rules of statements, and the levels of the whole grammar.

A logical line of simple statements and a compound statement are both read as a list of trees, so
that a block is the concatenation of what its statements give.
-/

/-! ### Simple statements -/

/-- The symbol of an operation in place. -/
def augmentedOp : Parser BinaryOp := fun tokens =>
  match tokens with
  | .symbol shown :: rest =>
      (List.lookup shown [("+=", BinaryOp.add), ("-=", .sub), ("*=", .mult), ("@=", .matMult),
        ("/=", .div), ("%=", .mod), ("&=", .bitAnd), ("|=", .bitOr), ("^=", .bitXor),
        ("<<=", .leftShift), (">>=", .rightShift), ("**=", .pow), ("//=", .floorDiv)]).map
          fun op => (op, rest)
  | _ => none

/-- What follows the colon behind a target: its type and possibly its value. -/
def hinted (g : Grammar) (simple : Bool) (found : Tree) : Parser Tree := do
  symbol ":"
  let kind ← g.expression
  let value ← if ← takeSymbol "=" then some <$> assignedValue g else pure none
  pure (.node (.annotated simple) [[found], [kind], value.toList])

/-- What follows the first equals sign: the targets are all but the last of what stands between
the signs. -/
def assignment (g : Grammar) (first : Tree) : Parser Tree := do
  let others ← many (do symbol "="; assignedValue g)
  match others.reverse with
  | [] => pure (.node .expr [[first]])
  | value :: between =>
      let found ← lift (retargetAll? .store (first :: between.reverse))
      pure (.node .assign [found, [value]])

/-- An expression, or whatever starts like one: an assignment of any kind. -/
def expressionStatement (g : Grammar) : Parser Tree := do
  if ← atNameThen ":" then
    let id ← name
    hinted g true (.name id .store)
  else
    let first ← assignedValue g
    if ← atSymbol ":" then hinted g false (← lift (retargetSingle? first))
    else
      match ← maybe augmentedOp with
      | some op =>
          let found ← lift (retargetSingle? first)
          let value ← assignedValue g
          pure (.node (.augmented op) [[found], [value]])
      | none => assignment g first

/-- Names with points between them, as one text. -/
def dottedText : Parser String := do
  let parts ← separated (symbol ".") name
  pure (".".intercalate parts)

/-- A name to bind instead of the imported one. -/
def boundAs : Parser (Option String) := do
  if ← takeKeyword "as" then some <$> name else pure none

def importStatement : Parser Tree := do
  let names ← separated (symbol ",") (do
    let id ← dottedText
    pure (⟨id, ← boundAs⟩ : Alias))
  pure (.node (.importStatement names) [])

/-- How many levels up an import starts: the points in front of the source. -/
def importLevel : Parser Nat := do
  let points ← many (do
    if ← takeSymbol "..." then pure 3
    else
      symbol "."
      pure 1)
  pure (points.foldr (· + ·) 0)

/-- The names that are imported from a source. -/
def importedNames : Parser (List Alias) := do
  let one : Parser Alias := do
    let id ← name
    pure ⟨id, ← boundAs⟩
  if ← takeSymbol "*" then pure [⟨"*", none⟩]
  else if ← takeSymbol "(" then
    let (names, _) ← commaList one
    symbol ")"
    pure names
  else
    let (names, trailing) ← commaList one
    if trailing then failure else pure names

def importFrom : Parser Tree := do
  let level ← importLevel
  let source ← maybe dottedText
  if level = 0 && source.isNone then failure
  else
    keyword "import"
    let names ← importedNames
    pure (.node (.importFrom source names level) [])

def raiseStatement (g : Grammar) : Parser Tree := do
  match ← maybe g.expression with
  | none => pure (.node .raiseStatement [[], []])
  | some value =>
      let cause ← if ← takeKeyword "from" then some <$> g.expression else pure none
      pure (.node .raiseStatement [[value], cause.toList])

def assertStatement (g : Grammar) : Parser Tree := do
  let test ← g.expression
  let message ← if ← takeSymbol "," then some <$> g.expression else pure none
  pure (.node .assertStatement [[test], message.toList])

def deleteStatement (g : Grammar) : Parser Tree := do
  let (found, _) ← commaList (do lift (retarget? .del (← g.primary)))
  pure (.node .deleteStatement [found])

/-- The statement behind a keyword that starts a simple one. -/
def keywordStatement? (g : Grammar) : String → Option (Parser Tree)
  | "return" => some do
      let value ← maybe (starExpressions g)
      pure (.node .returnStatement [value.toList])
  | "import" => some importStatement
  | "from" => some importFrom
  | "raise" => some (raiseStatement g)
  | "pass" => some (pure (.node .passStatement []))
  | "del" => some (deleteStatement g)
  | "assert" => some (assertStatement g)
  | "break" => some (pure (.node .breakStatement []))
  | "continue" => some (pure (.node .continueStatement []))
  | "global" => some do
      pure (.node (.globalStatement (← separated (symbol ",") name)) [])
  | "nonlocal" => some do
      pure (.node (.nonlocalStatement (← separated (symbol ",") name)) [])
  | _ => none

def simpleStatement (g : Grammar) : Parser Tree := fun tokens =>
  match tokens with
  | .keyword shown :: rest =>
      match keywordStatement? g shown with
      | some p => p rest
      | none => expressionStatement g tokens
  | _ => expressionStatement g tokens

/-- The simple statements of one logical line. -/
def simpleLine (g : Grammar) : Parser (List Tree) := do
  let found ← separated (symbol ";") (simpleStatement g)
  let _ ← takeSymbol ";"
  mark .lineEnd
  pure found

/-! ### Blocks -/

/-- What stands behind the colon of a compound statement: an indented block or the rest of the
line. -/
def block (g : Grammar) : Parser (List Tree) := do
  symbol ":"
  match ← maybe (mark .lineEnd) with
  | some _ =>
      mark .indent
      let first ← g.statement
      let others ← many g.statement
      mark .dedent
      pure (first ++ others.flatten)
  | none => simpleLine g

/-- A block behind a keyword, if the keyword is there. -/
def blockAfter (g : Grammar) (shown : String) : Parser (List Tree) := do
  if ← takeKeyword shown then block g else pure []

/-! ### Compound statements -/

def ifStatement (g : Grammar) : Parser Tree := do
  let test ← namedExpression g
  let body ← block g
  let others ← many (do
    keyword "elif"
    let test ← namedExpression g
    pure (test, ← block g))
  let last ← blockAfter g "else"
  let alternative := others.foldr
    (fun (test, body) alternative => [Tree.node .ifStatement [[test], body, alternative]]) last
  pure (.node .ifStatement [[test], body, alternative])

def whileStatement (g : Grammar) : Parser Tree := do
  let test ← namedExpression g
  let body ← block g
  let alternative ← blockAfter g "else"
  pure (.node .whileStatement [[test], body, alternative])

def forStatement (g : Grammar) (isAsync : Bool) : Parser Tree := do
  let found ← targets g
  keyword "in"
  let iterable ← starExpressions g
  let body ← block g
  let alternative ← blockAfter g "else"
  pure (.loop isAsync found iterable body alternative)

/-- A handler of single exceptions or, with a star, of groups. -/
def handler (g : Grammar) (isGroup : Bool) : Parser Tree := do
  keyword "except"
  if isGroup then symbol "*"
  let kind ← if isGroup then some <$> g.expression else maybe g.expression
  let bound ← if kind.isSome then boundAs else pure none
  let body ← block g
  pure (.node (.handler bound) [kind.toList, body])

def tryStatement (g : Grammar) : Parser Tree := do
  let body ← block g
  let single ← many (handler g false)
  let groups ← if single.isEmpty then many (handler g true) else pure []
  let handlers := single ++ groups
  let alternative ← if handlers.isEmpty then pure [] else blockAfter g "else"
  let final ← blockAfter g "finally"
  if handlers.isEmpty && final.isEmpty then failure
  else
    pure (.node (.tryStatement (!groups.isEmpty)) [body, handlers, alternative, final])

/-- One manager of a `with` statement. -/
def withItem (g : Grammar) : Parser Tree := do
  let manager ← g.expression
  let found ← if ← takeKeyword "as" then some <$> target g else pure none
  pure (.node .withItem [[manager], found.toList])

/-- The managers of a `with` statement, with or without brackets around all of them. -/
def withItems (g : Grammar) : Parser (List Tree) :=
  (do
    symbol "("
    let (found, _) ← commaList (withItem g)
    symbol ")"
    if ← atSymbol ":" then pure found else failure) <|>
  separated (symbol ",") (withItem g)

def withStatement (g : Grammar) (isAsync : Bool) : Parser Tree := do
  let items ← withItems g
  let body ← block g
  pure (.node (.withStatement isAsync) [items, body])

def functionDef (g : Grammar) (isAsync : Bool) (decorators : List Tree) : Parser Tree := do
  let id ← name
  symbol "("
  let found ← parameters g true ")"
  let returns ← if ← takeSymbol "->" then some <$> g.expression else pure none
  let body ← block g
  pure (.function isAsync id found.layout decorators found.parameters found.defaults
    found.keywordDefaults returns.toList body)

def classDef (g : Grammar) (decorators : List Tree) : Parser Tree := do
  let id ← name
  let (bases, keywords) ← if ← takeSymbol "(" then arguments g false else pure ([], [])
  let body ← block g
  pure (.classDef id decorators bases keywords body)

/-- Decorators and what they are applied to. -/
def decorated (g : Grammar) : Parser Tree := do
  let decorators ← many (do
    symbol "@"
    let value ← namedExpression g
    mark .lineEnd
    pure value)
  if ← takeKeyword "class" then classDef g decorators
  else
    let isAsync ← takeKeyword "async"
    keyword "def"
    functionDef g isAsync decorators

def asyncStatement (g : Grammar) : Parser Tree := do
  if ← takeKeyword "def" then functionDef g true []
  else if ← takeKeyword "for" then forStatement g true
  else
    keyword "with"
    withStatement g true

/-- One case of a `match` statement. -/
def caseBlock (g : Grammar) : Parser Tree := do
  word "case"
  let found ← casePattern g
  let guard ← if ← takeKeyword "if" then some <$> namedExpression g else pure none
  let body ← block g
  pure (.node .caseBlock [[found], guard.toList, body])

/-- The subject of a `match` statement; commas make it a tuple. -/
def subject (g : Grammar) : Parser Tree := do
  let (items, trailing) ← commaList (element g)
  match items, trailing with
  | [single], false => if isStarred single then failure else pure single
  | _, _ => pure (.node (.tuple .load) [items])

def matchStatement (g : Grammar) : Parser Tree := do
  word "match"
  let value ← subject g
  symbol ":"
  mark .lineEnd
  mark .indent
  let first ← caseBlock g
  let others ← many (caseBlock g)
  mark .dedent
  pure (.node .matchStatement [[value], first :: others])

/-- The statement behind a keyword that starts a compound one. -/
def compoundStatement? (g : Grammar) : String → Option (Parser Tree)
  | "if" => some (ifStatement g)
  | "while" => some (whileStatement g)
  | "for" => some (forStatement g false)
  | "try" => some (tryStatement g)
  | "with" => some (withStatement g false)
  | "def" => some (functionDef g false [])
  | "class" => some (classDef g [])
  | "async" => some (asyncStatement g)
  | _ => none

/-- A compound statement. -/
def compound (g : Grammar) : Parser Tree := fun tokens =>
  match tokens with
  | .keyword shown :: rest =>
      match compoundStatement? g shown with
      | some p => p rest
      | none => none
  | .symbol "@" :: _ => decorated g tokens
  | .name "match" true :: _ => matchStatement g tokens
  | _ => none

/-- One logical line or one compound statement. -/
def statement (g : Grammar) : Parser (List Tree) :=
  (do pure [← compound g]) <|> simpleLine g

end Rule

namespace Grammar

/-- The level above a given one. -/
def next (g : Grammar) : Grammar where
  bitwiseOr := Rule.bitwiseOr g
  disjunction := Rule.disjunction g
  expression := Rule.expression g
  factor := Rule.factor g
  inversion := Rule.inversion g
  primary := Rule.primary g
  pattern := Rule.pattern g
  statement := Rule.statement g

/-- The grammar in which constructs nest to a given depth. -/
def level : Nat → Grammar
  | 0 => empty
  | depth + 1 => next (level depth)

end Grammar
end Snippet
end AnswerKey
