import AnswerKey.Snippet.Interpolation
import AnswerKey.Snippet.Token

namespace AnswerKey
namespace Snippet

/-!
Parsers over tokens.  A parser takes the tokens that are left and either fails or returns a value
with the tokens left behind it; alternatives are tried in order and the first that succeeds stands.

The grammar is built in levels.  A `Grammar` holds the parsers that a construct may use for what is
nested inside it, and each level of the grammar is assembled from the level below, so that nesting is
bounded by the number of levels and every rule is an ordinary definition.
-/

abbrev Parser := StateT (List Token) Option

namespace Parser

variable {α : Type}

/-- Take a given symbol. -/
def symbol (shown : String) : Parser Unit := fun tokens =>
  match tokens with
  | .symbol other :: rest => if other = shown then some ((), rest) else none
  | _ => none

/-- Take a given keyword. -/
def keyword (word : String) : Parser Unit := fun tokens =>
  match tokens with
  | .keyword other :: rest => if other = word then some ((), rest) else none
  | _ => none

/-- Take a name. -/
def name : Parser String := fun tokens =>
  match tokens with
  | .name id _ :: rest => some (id, rest)
  | _ => none

/-- Take a given name that is a keyword only by its place. -/
def word (id : String) : Parser Unit := fun tokens =>
  match tokens with
  | .name other true :: rest => if other = id then some ((), rest) else none
  | _ => none

/-- Take a token without text. -/
def mark (token : Token) : Parser Unit := fun tokens =>
  match tokens with
  | other :: rest => if other = token then some ((), rest) else none
  | [] => none

/-- The next token, left in place. -/
def peek : Parser Token := fun tokens =>
  match tokens with
  | token :: _ => some (token, tokens)
  | [] => some (.finish, tokens)

/-- Whether the next token is a given symbol. -/
def atSymbol (shown : String) : Parser Bool := fun tokens =>
  some (tokens.head? == some (.symbol shown), tokens)

/-- Whether the next token is a given keyword. -/
def atKeyword (word : String) : Parser Bool := fun tokens =>
  some (tokens.head? == some (.keyword word), tokens)

/-- Whether the next token is a name and the one behind it a given symbol. -/
def atNameThen (shown : String) : Parser Bool := fun tokens =>
  match tokens with
  | .name _ _ :: .symbol other :: _ => some (other == shown, tokens)
  | _ => some (false, tokens)

/-- Take a symbol if it is next, and tell whether it was. -/
def takeSymbol (shown : String) : Parser Bool := fun tokens =>
  match symbol shown tokens with
  | some (_, rest) => some (true, rest)
  | none => some (false, tokens)

/-- Take a keyword if it is next, and tell whether it was. -/
def takeKeyword (word : String) : Parser Bool := fun tokens =>
  match keyword word tokens with
  | some (_, rest) => some (true, rest)
  | none => some (false, tokens)

/-- Try a parser; when it fails nothing is consumed. -/
def maybe (p : Parser α) : Parser (Option α) := fun tokens =>
  match p tokens with
  | some (value, rest) => some (some value, rest)
  | none => some (none, tokens)

/-- The value of a partial function, or failure. -/
def lift (value : Option α) : Parser α := fun tokens =>
  value.map fun value => (value, tokens)

/-- Repeat a parser as often as it succeeds, at most a given number of times. -/
def repeatUpTo (p : Parser α) : Nat → Parser (List α)
  | 0 => pure []
  | count + 1 => fun tokens =>
      match p tokens with
      | none => some ([], tokens)
      | some (value, rest) =>
          (repeatUpTo p count rest).map fun (values, left) => (value :: values, left)

/-- Repeat a parser as often as it succeeds. -/
def many (p : Parser α) : Parser (List α) := fun tokens =>
  match p tokens with
  | none => some ([], tokens)
  | some (value, rest) =>
      (repeatUpTo p rest.length rest).map fun (values, left) => (value :: values, left)

/-- One or more items with a separator between them. -/
def separated (separator : Parser Unit) (p : Parser α) : Parser (List α) := do
  let first ← p
  let others ← many (do separator; p)
  pure (first :: others)

/-- One or more items with commas between them; the flag tells whether a comma follows the last. -/
def commaList (p : Parser α) : Parser (List α × Bool) := do
  let first ← p
  let others ← many (do symbol ","; p)
  let trailing ← takeSymbol ","
  pure (first :: others, trailing)

/-- Left-associative chains: an operand, then operators with operands. -/
def chain (operand : Parser Tree) (operator : Parser (Tree → Tree → Tree)) : Parser Tree := do
  let first ← operand
  let others ← many (do
    let combine ← operator
    let right ← operand
    pure (combine, right))
  pure (others.foldl (fun left (combine, right) => combine left right) first)

end Parser

/-- The parsers of one level of the grammar, used for whatever is nested inside a construct. -/
structure Grammar where
  bitwiseOr : Parser Tree
  disjunction : Parser Tree
  expression : Parser Tree
  factor : Parser Tree
  inversion : Parser Tree
  primary : Parser Tree
  pattern : Parser Tree
  /-- One logical line or one compound statement. -/
  statement : Parser (List Tree)

/-- The level below all others, at which nothing can be nested any more. -/
def Grammar.empty : Grammar where
  bitwiseOr := failure
  disjunction := failure
  expression := failure
  factor := failure
  inversion := failure
  primary := failure
  pattern := failure
  statement := failure

end Snippet
end AnswerKey
