import AnswerKey.Snippet.Grammar.Basic

namespace AnswerKey
namespace Snippet
namespace Rule

open Snippet.Parser

/-!
The rules of expressions, from atoms up to lists of expressions.

Each rule takes the grammar `g` of the level below for what it nests.  Where two constructs begin
alike (a bracket may open a group, a tuple or a comprehension), their common beginning is read once
and the next symbol decides.
-/

/-! ### Targets -/

mutual

/-- An expression as something that is assigned or deleted.  Only names, attributes, subscripts and
lists of them qualify; a starred one can be assigned but not deleted. -/
def retarget? (context : Context) : Tree → Option Tree
  | .name id _ => some (.name id context)
  | .node (.attribute id _) parts => some (.node (.attribute id context) parts)
  | .node (.subscript _) parts => some (.node (.subscript context) parts)
  | .node (.starred _) parts =>
      if context = .del then none
      else (retargetParts? context parts).map fun parts => .node (.starred context) parts
  | .node (.tuple _) parts =>
      (retargetParts? context parts).map fun parts => .node (.tuple context) parts
  | .node (.list _) parts =>
      (retargetParts? context parts).map fun parts => .node (.list context) parts
  | _ => none

/-- Several expressions as targets. -/
def retargetAll? (context : Context) : List Tree → Option (List Tree)
  | [] => some []
  | tree :: rest =>
      match retarget? context tree, retargetAll? context rest with
      | some tree, some rest => some (tree :: rest)
      | _, _ => none

/-- The expressions of some positions as targets. -/
def retargetParts? (context : Context) : List (List Tree) → Option (List (List Tree))
  | [] => some []
  | trees :: rest =>
      match retargetAll? context trees, retargetParts? context rest with
      | some trees, some rest => some (trees :: rest)
      | _, _ => none

end

/-- An expression as the single target of an operation in place or of a type hint. -/
def retargetSingle? (tree : Tree) : Option Tree :=
  match tree with
  | .name _ _ => retarget? .store tree
  | .node (.attribute _ _) _ => retarget? .store tree
  | .node (.subscript _) _ => retarget? .store tree
  | _ => none

/-- One item without a comma behind it stands for itself, and anything else is a tuple. -/
def tupleOf (context : Context) : List Tree × Bool → Tree
  | ([single], false) => single
  | (items, _) => .node (.tuple context) [items]

/-- One target of an assignment, a loop or a comprehension. -/
def target (g : Grammar) : Parser Tree := do
  if ← takeSymbol "*" then
    let value ← g.primary
    let found ← lift (retarget? .store value)
    pure (.node (.starred .store) [[found]])
  else
    let value ← g.primary
    lift (retarget? .store value)

/-- The targets of a loop or a comprehension. -/
def targets (g : Grammar) : Parser Tree := do
  pure (tupleOf .store (← commaList (target g)))

/-! ### Lists of expressions -/

/-- A name bound to a value inside an expression, or an expression. -/
def namedExpression (g : Grammar) : Parser Tree := do
  if ← atNameThen ":=" then
    let id ← name
    symbol ":="
    let value ← g.expression
    pure (.node .named [[.name id .store], [value]])
  else g.expression

/-- An element of a display: starred, named or plain. -/
def element (g : Grammar) : Parser Tree := do
  if ← takeSymbol "*" then
    let value ← g.bitwiseOr
    pure (.node (.starred .load) [[value]])
  else namedExpression g

/-- The elements of a display up to its closing bracket. -/
def elements (g : Grammar) (closing : String) : Parser (List Tree) := do
  if ← takeSymbol closing then pure []
  else
    let (found, _) ← commaList (element g)
    symbol closing
    pure found

/-- An expression that may be starred. -/
def starExpression (g : Grammar) : Parser Tree := do
  if ← takeSymbol "*" then
    let value ← g.bitwiseOr
    pure (.node (.starred .load) [[value]])
  else g.expression

/-- Expressions with commas between them, as on the right of an assignment. -/
def starExpressions (g : Grammar) : Parser Tree := do
  pure (tupleOf .load (← commaList (starExpression g)))

/-- Whether a tree is an expression with a star in front of it. -/
def isStarred : Tree → Bool
  | .node (.starred _) _ => true
  | _ => false

/-- An expression that hands a value out of a function. -/
def yieldExpression (g : Grammar) : Parser Tree := do
  keyword "yield"
  if ← takeKeyword "from" then
    let value ← g.expression
    pure (.node .yieldFrom [[value]])
  else
    let value ← maybe (starExpressions g)
    pure (.node .yield [value.toList])

/-- What may stand on the right of an assignment. -/
def assignedValue (g : Grammar) : Parser Tree := do
  if ← atKeyword "yield" then yieldExpression g else starExpressions g

/-! ### Comprehensions -/

/-- Whether a comprehension clause begins here. -/
def atClause : Parser Bool := do
  pure ((← atKeyword "for") || (← atKeyword "async"))

/-- One clause of a comprehension. -/
def clause (g : Grammar) : Parser Tree := do
  let isAsync ← takeKeyword "async"
  keyword "for"
  let found ← targets g
  keyword "in"
  let iterable ← g.disjunction
  let conditions ← many (do keyword "if"; g.disjunction)
  pure (.clause isAsync found iterable conditions)

/-- The clauses of a comprehension, up to its closing bracket. -/
def clauses (g : Grammar) (closing : String) : Parser (List Tree) := do
  let first ← clause g
  let others ← many (clause g)
  symbol closing
  pure (first :: others)

/-! ### Brackets -/

/-- What follows an opening round bracket: a group, a tuple or a generator. -/
def roundBracket (g : Grammar) : Parser Tree := do
  if ← takeSymbol ")" then pure (.node (.tuple .load) [[]])
  else if ← atKeyword "yield" then
    let value ← yieldExpression g
    symbol ")"
    pure value
  else
    let first ← element g
    if ← takeSymbol "," then
      let others ← elements g ")"
      pure (.node (.tuple .load) [first :: others])
    else if isStarred first then failure
    else if ← atClause then
      pure (.comprehension .generator [first] (← clauses g ")"))
    else
      symbol ")"
      pure first

/-- What follows an opening square bracket that starts an expression: a list or a comprehension. -/
def squareBracket (g : Grammar) : Parser Tree := do
  if ← takeSymbol "]" then pure (.node (.list .load) [[]])
  else
    let first ← element g
    if ← takeSymbol "," then
      let others ← elements g "]"
      pure (.node (.list .load) [first :: others])
    else if !isStarred first && (← atClause) then
      pure (.comprehension .list [first] (← clauses g "]"))
    else
      symbol "]"
      pure (.node (.list .load) [[first]])

/-- An entry of a dictionary: a key with its value, or a mapping whose entries are all taken. -/
def entry (g : Grammar) : Parser (Option Tree × Tree) := do
  if ← takeSymbol "**" then pure (none, ← g.bitwiseOr)
  else
    let key ← g.expression
    symbol ":"
    let value ← g.expression
    pure (some key, value)

/-- A dictionary from its entries. -/
def dictOf (entries : List (Option Tree × Tree)) : Tree :=
  .node (.dict (entries.map (·.1.isSome))) [entries.filterMap (·.1), entries.map (·.2)]

/-- The entries of a dictionary behind the first one. -/
def dictFrom (g : Grammar) (first : Option Tree × Tree) : Parser Tree := do
  let others ← many (do symbol ","; entry g)
  let _ ← takeSymbol ","
  symbol "\x7d"
  pure (dictOf (first :: others))

/-- The elements of a set behind the first one, or the clauses of a comprehension. -/
def setFrom (g : Grammar) (first : Tree) : Parser Tree := do
  if ← takeSymbol "," then
    let others ← elements g "\x7d"
    pure (.node .set [first :: others])
  else if !isStarred first && (← atClause) then
    pure (.comprehension .set [first] (← clauses g "\x7d"))
  else
    symbol "\x7d"
    pure (.node .set [[first]])

/-- What follows an opening brace: a set, a dictionary or a comprehension of either. -/
def brace (g : Grammar) : Parser Tree := do
  if ← takeSymbol "\x7d" then pure (dictOf [])
  else if ← atSymbol "**" then dictFrom g (← entry g)
  else
    let isNamed ← atNameThen ":="
    let first ← element g
    if isNamed || isStarred first then setFrom g first
    else if ← takeSymbol ":" then
      let value ← g.expression
      if ← atClause then pure (.comprehension .dict [first, value] (← clauses g "\x7d"))
      else dictFrom g (some first, value)
    else setFrom g first

/-! ### Atoms -/

/-- The expression of a replacement field, read as if it stood in round brackets. -/
def fieldExpression (g : Grammar) (text : List Char) : Option Tree :=
  match Token.ofChars? ('(' :: text ++ [')', '\n']) with
  | none => none
  | some (tokens, _) => (starExpressions g tokens).map (·.1)

/-- The string literals at the head of the tokens. -/
def takeLiterals : List Token → List Literal × List Token
  | .string literal :: rest =>
      let (others, left) := takeLiterals rest
      (literal :: others, left)
  | tokens => ([], tokens)

/-- One or more adjacent string literals. -/
def strings (g : Grammar) : Parser Tree := fun tokens =>
  match takeLiterals tokens with
  | ([], _) => none
  | (literals, rest) =>
      (Interpolation.join? (fieldExpression g) literals).map fun tree => (tree, rest)

/-- The value of a keyword that stands for one. -/
def constant? : String → Option Constant
  | "True" => some (.bool true)
  | "False" => some (.bool false)
  | "None" => some .none
  | _ => none

/-- The smallest expressions, and whatever stands in brackets. -/
def atom (g : Grammar) : Parser Tree := fun tokens =>
  match tokens with
  | .name id _ :: rest => some (.name id .load, rest)
  | .number value :: rest => some (.constant value, rest)
  | .string _ :: _ => strings g tokens
  | .keyword shown :: rest => (constant? shown).map fun value => (.constant value, rest)
  | .symbol shown :: rest =>
      if shown = "(" then roundBracket g rest
      else if shown = "[" then squareBracket g rest
      else if shown = "\x7b" then brace g rest
      else if shown = "..." then some (.constant .ellipsis, rest)
      else none
  | _ => none

/-! ### Calls and subscripts -/

/-- What an argument of a call is by its form. -/
inductive ArgumentKind where
  | plain
  | starred
  | keyword
  | doubleStarred
  deriving DecidableEq, Repr

namespace ArgumentKind

/-- Whether the argument is given by name. -/
def isNamed : ArgumentKind → Bool
  | keyword => true
  | doubleStarred => true
  | _ => false

/-- Arguments are in order when no plain one follows a named one and only named ones follow a
mapping. -/
def inOrder (kinds : List ArgumentKind) : Bool :=
  (kinds.dropWhile (fun kind => !kind.isNamed)).all (· ≠ plain) &&
    (kinds.dropWhile (· ≠ doubleStarred)).all isNamed

end ArgumentKind

/-- One argument of a call. -/
def argument (g : Grammar) : Parser (ArgumentKind × Tree) := do
  if ← takeSymbol "**" then
    let value ← g.expression
    pure (.doubleStarred, .node (.keyword none) [[value]])
  else if ← takeSymbol "*" then
    let value ← g.expression
    pure (.starred, .node (.starred .load) [[value]])
  else if ← atNameThen "=" then
    let id ← name
    symbol "="
    let value ← g.expression
    pure (.keyword, .node (.keyword (some id)) [[value]])
  else pure (.plain, ← namedExpression g)

/-- The arguments behind an opening round bracket: those given by place and those given by name.  A
generator may stand without brackets of its own where `generators` allows it. -/
def arguments (g : Grammar) (generators : Bool) : Parser (List Tree × List Tree) := do
  if ← takeSymbol ")" then pure ([], [])
  else
    let (items, trailing) ← commaList (argument g)
    match items, trailing with
    | [(.plain, value)], false =>
        if generators && (← atClause) then
          pure ([.comprehension .generator [value] (← clauses g ")")], [])
        else
          symbol ")"
          pure ([value], [])
    | _, _ =>
        symbol ")"
        if ArgumentKind.inOrder (items.map (·.1)) then
          let (byName, byPlace) := items.partition (·.1.isNamed)
          pure (byPlace.map (·.2), byName.map (·.2))
        else failure

/-- One index of a subscript, with or without bounds. -/
def index (g : Grammar) : Parser Tree := do
  if ← takeSymbol "*" then
    let value ← g.expression
    pure (.node (.starred .load) [[value]])
  else if ← atNameThen ":=" then namedExpression g
  else
    let lower ← if ← atSymbol ":" then pure none else some <$> g.expression
    if ← takeSymbol ":" then
      let upper ← maybe g.expression
      let step ← if ← takeSymbol ":" then maybe g.expression else pure none
      pure (.slice lower.toList upper.toList step.toList)
    else lift lower

/-- What stands between the brackets of a subscript.  A starred index makes a tuple of it. -/
def indices (g : Grammar) : Parser Tree := do
  let (items, trailing) ← commaList (index g)
  pure (tupleOf .load (items, trailing || items.any isStarred))

/-- An attribute, a call or a subscript, as what it makes of the expression in front of it. -/
def trailer (g : Grammar) : Parser (Tree → Tree) := do
  if ← takeSymbol "." then
    let id ← name
    pure fun value => .node (.attribute id .load) [[value]]
  else if ← takeSymbol "(" then
    let (byPlace, byName) ← arguments g true
    pure fun value => .node .call [[value], byPlace, byName]
  else
    symbol "["
    let found ← indices g
    symbol "]"
    pure fun value => .node (.subscript .load) [[value], [found]]

/-- An atom with attributes, calls and subscripts. -/
def primary (g : Grammar) : Parser Tree := do
  let first ← atom g
  let trailers ← many (trailer g)
  pure (trailers.foldl (fun value apply => apply value) first)

/-! ### Operators -/

/-- An operator of a table, as what it makes of its operands. -/
def operator (table : List (String × BinaryOp)) : Parser (Tree → Tree → Tree) := fun tokens =>
  match tokens with
  | .symbol shown :: rest =>
      (table.lookup shown).map fun op =>
        ((fun left right => .node (.binary op) [[left], [right]]), rest)
  | _ => none

def awaited (g : Grammar) : Parser Tree := do
  if ← takeKeyword "await" then
    let value ← primary g
    pure (.node .await [[value]])
  else primary g

def power (g : Grammar) : Parser Tree := do
  let base ← awaited g
  if ← takeSymbol "**" then
    let exponent ← g.factor
    pure (.node (.binary .pow) [[base], [exponent]])
  else pure base

/-- The sign of a factor. -/
def sign? : Token → Option UnaryOp
  | .symbol "-" => some .minus
  | .symbol "+" => some .plus
  | .symbol "~" => some .invert
  | _ => none

def factor (g : Grammar) : Parser Tree := fun tokens =>
  match tokens with
  | token :: rest =>
      match sign? token with
      | some op => (g.factor rest).map fun (value, left) => (.node (.unary op) [[value]], left)
      | none => power g tokens
  | [] => none

def term (g : Grammar) : Parser Tree :=
  chain (factor g)
    (operator [("*", .mult), ("/", .div), ("//", .floorDiv), ("%", .mod), ("@", .matMult)])

def sum (g : Grammar) : Parser Tree :=
  chain (term g) (operator [("+", .add), ("-", .sub)])

def shift (g : Grammar) : Parser Tree :=
  chain (sum g) (operator [("<<", .leftShift), (">>", .rightShift)])

def bitwiseAnd (g : Grammar) : Parser Tree :=
  chain (shift g) (operator [("&", .bitAnd)])

def bitwiseXor (g : Grammar) : Parser Tree :=
  chain (bitwiseAnd g) (operator [("^", .bitXor)])

def bitwiseOr (g : Grammar) : Parser Tree :=
  chain (bitwiseXor g) (operator [("|", .bitOr)])

/-- An operator of a comparison, of one word or two. -/
def compareOp : Parser CompareOp := fun tokens =>
  match tokens with
  | .symbol shown :: rest =>
      (List.lookup shown [("==", CompareOp.eq), ("!=", .notEq), ("<=", .ltE), ("<", .lt),
        (">=", .gtE), (">", .gt)]).map fun op => (op, rest)
  | .keyword "not" :: .keyword "in" :: rest => some (.notIn, rest)
  | .keyword "in" :: rest => some (.isIn, rest)
  | .keyword "is" :: .keyword "not" :: rest => some (.isNot, rest)
  | .keyword "is" :: rest => some (.is, rest)
  | _ => none

def comparison (g : Grammar) : Parser Tree := do
  let first ← bitwiseOr g
  let others ← many (do
    let op ← compareOp
    let operand ← bitwiseOr g
    pure (op, operand))
  match others with
  | [] => pure first
  | _ => pure (.node (.compare (others.map (·.1))) [[first], others.map (·.2)])

def inversion (g : Grammar) : Parser Tree := do
  if ← takeKeyword "not" then
    let value ← g.inversion
    pure (.node (.unary .not) [[value]])
  else comparison g

/-- Operands joined by one Boolean operator. -/
def joined (op : BoolOp) (shown : String) (operand : Parser Tree) : Parser Tree := do
  match ← separated (keyword shown) operand with
  | [single] => pure single
  | operands => pure (.node (.boolean op) [operands])

def conjunction (g : Grammar) : Parser Tree :=
  joined .and "and" (inversion g)

def disjunction (g : Grammar) : Parser Tree :=
  joined .or "or" (conjunction g)

/-! ### Parameters -/

/-- One item of a parameter list. -/
inductive ParameterItem where
  | slash
  | star
  | plain (parameter : Tree) (default : Option Tree)
  | variadic (parameter : Tree)
  | rest (parameter : Tree)

/-- The parameters of a function and the values they take by default. -/
structure Parameters where
  layout : ParameterLayout
  parameters : List Tree
  defaults : List Tree
  keywordDefaults : List Tree

namespace Parameters

/-- The parameters of a function that has none. -/
def none : Parameters := ⟨⟨0, 0, false, [], false⟩, [], [], []⟩

/-- The plain parameters at the head of a list of items, and the other items. -/
def takePlain : List ParameterItem → List (Tree × Option Tree) × List ParameterItem
  | .plain parameter default :: others =>
      let (found, left) := takePlain others
      ((parameter, default) :: found, left)
  | items => ([], items)

/-- Whether no parameter without a default follows one with a default. -/
def defaultsLast (found : List (Tree × Option Tree)) : Bool :=
  (found.dropWhile (·.2.isNone)).all (·.2.isSome)

/-- Put a parameter list together from its three stretches. -/
def assemble (front back : List (Tree × Option Tree)) (variadic : List Tree)
    (only : List (Tree × Option Tree)) (rest : List Tree) : Option Parameters :=
  let positional := front ++ back
  if defaultsLast positional then
    some
      { layout := ⟨front.length, back.length, !variadic.isEmpty, only.map (·.2.isSome),
          !rest.isEmpty⟩
        parameters := positional.map (·.1) ++ variadic ++ only.map (·.1) ++ rest
        defaults := positional.filterMap (·.2)
        keywordDefaults := only.filterMap (·.2) }
  else Option.none

/-- The stretches behind the positional parameters.  A lone star must be followed by a parameter. -/
def ofTail? (front back : List (Tree × Option Tree)) (items : List ParameterItem) :
    Option Parameters :=
  match items with
  | [] => assemble front back [] [] []
  | [.rest last] => assemble front back [] [] [last]
  | .star :: others =>
      match takePlain others with
      | ([], _) => Option.none
      | (only, []) => assemble front back [] only []
      | (only, [.rest last]) => assemble front back [] only [last]
      | _ => Option.none
  | .variadic parameter :: others =>
      match takePlain others with
      | (only, []) => assemble front back [parameter] only []
      | (only, [.rest last]) => assemble front back [parameter] only [last]
      | _ => Option.none
  | _ => Option.none

/-- The parameter list of some items, if they are in an order that is allowed. -/
def ofItems? (items : List ParameterItem) : Option Parameters :=
  match takePlain items with
  | (front, .slash :: others) =>
      if front.isEmpty then Option.none
      else
        let (back, left) := takePlain others
        ofTail? front back left
  | (back, left) => ofTail? [] back left

end Parameters

/-- The type hint of a parameter; only parameters of a definition have any. -/
def hint (hinted : Bool) (p : Parser Tree) : Parser (List Tree) := do
  if hinted then pure (← maybe (do symbol ":"; p)).toList else pure []

/-- One item of a parameter list. -/
def parameterItem (g : Grammar) (hinted : Bool) : Parser ParameterItem := do
  if ← takeSymbol "/" then pure .slash
  else if ← takeSymbol "**" then
    let id ← name
    pure (.rest (.parameter id (← hint hinted g.expression)))
  else if ← takeSymbol "*" then
    match ← maybe name with
    | some id => pure (.variadic (.parameter id (← hint hinted (starExpression g))))
    | none => pure .star
  else
    let id ← name
    let found ← hint hinted g.expression
    let default ← maybe (do symbol "="; g.expression)
    pure (.plain (.parameter id found) default)

/-- A parameter list up to a closing symbol. -/
def parameters (g : Grammar) (hinted : Bool) (closing : String) : Parser Parameters := do
  if ← takeSymbol closing then pure Parameters.none
  else
    let (items, _) ← commaList (parameterItem g hinted)
    symbol closing
    lift (Parameters.ofItems? items)

/-! ### Expressions -/

/-- A function without a name. -/
def lambda (g : Grammar) : Parser Tree := do
  keyword "lambda"
  let found ← parameters g false ":"
  let body ← g.expression
  pure (.lambda found.layout found.parameters found.defaults found.keywordDefaults body)

def expression (g : Grammar) : Parser Tree := do
  if ← atKeyword "lambda" then lambda g
  else
    let value ← disjunction g
    let choice ← maybe (do
      keyword "if"
      let test ← disjunction g
      keyword "else"
      let alternative ← g.expression
      pure (test, alternative))
    match choice with
    | some (test, alternative) => pure (.node .conditional [[test], [value], [alternative]])
    | none => pure value

end Rule
end Snippet
end AnswerKey
