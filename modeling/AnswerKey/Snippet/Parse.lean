import AnswerKey.Snippet.Grammar.Statement
import AnswerKey.Text.Line

namespace AnswerKey
namespace Snippet

/-!
Parsing of whole inputs.  An input is read in one of several modes, which differ in what the whole
text has to be: a module, one expression, one interactive statement or the type of a function.
-/

inductive Mode where
  /-- A module or else an expression. -/
  | auto
  | module
  | expression
  | interactive
  | functionType
  deriving DecidableEq, Repr

namespace Mode

/-- The mode with a given name. -/
def ofText? : String → Option Mode
  | "auto" => some auto
  | "exec" => some module
  | "eval" => some expression
  | "single" => some interactive
  | "func_type" => some functionType
  | _ => none

end Mode

namespace Rule

open Snippet.Parser

/-- Line ends up to the end of the input. -/
def finish : Parser Unit := do
  let _ ← many (mark .lineEnd)
  mark .finish

def moduleInput (g : Grammar) : Parser Tree := do
  let body ← many g.statement
  mark .finish
  pure (.module body.flatten)

def expressionInput (g : Grammar) : Parser Tree := do
  let value ← commaList g.expression
  finish
  pure (.expression (tupleOf .load value))

/-- One compound statement with a line end of its own behind it. -/
def interactiveBlock (g : Grammar) : Parser Tree := do
  let single ← compound g
  mark .lineEnd
  mark .finish
  pure (.node .interactive [[single]])

/-- One logical line of simple statements. -/
def interactiveLine (g : Grammar) : Parser Tree := do
  let body ← simpleLine g
  mark .finish
  pure (.node .interactive [body])

/-- Expressions without a star, one with a star and one with two, with commas between them. -/
def parameterTypes (g : Grammar) : Parser (List Tree) := do
  let plain ← maybe (separated (symbol ",") g.expression)
  let behind (shown : String) (open_ : Bool) : Parser (Option Tree) :=
    maybe (do
      if open_ then symbol ","
      symbol shown
      g.expression)
  let starred ← behind "*" plain.isSome
  let doubled ← behind "**" (plain.isSome || starred.isSome)
  pure (plain.getD [] ++ starred.toList ++ doubled.toList)

def functionTypeInput (g : Grammar) : Parser Tree := do
  symbol "("
  let found ← parameterTypes g
  symbol ")"
  symbol "->"
  let result ← g.expression
  finish
  pure (.node .functionType [found, [result]])

end Rule

namespace Token

/-- The tokens of an interactive input: it ends its last line and closes all open blocks by itself. -/
def endInput (tokens : List Token) (opened : Nat) : List Token :=
  tokens.dropLast ++ .lineEnd ::
    (if opened = 0 then [] else List.replicate opened .dedent ++ [.lineEnd]) ++ [.finish]

/-- Whether a text holds only blanks and comments. -/
def isEmptyText (text : List Char) : Bool :=
  (Text.lines text).all fun line =>
    match Lexeme.skipGap line with
    | [] => true
    | c :: _ => c == '#'

end Token

namespace Tree

/-- How deeply the constructs of an input may nest at most. -/
def nestingLimit : Nat := 6000

/-- Read tokens that make up a whole input. -/
def whole? (p : Grammar → Parser Tree) (size : Nat) (tokens : List Token) : Option Tree :=
  (p (.level (min size nestingLimit + 10)) tokens).map (·.1)

/-- The tree of a module.  A missing line end at the end of the text is supplied. -/
def ofModule? (text : List Char) : Option Tree :=
  let closed := if text.getLast? = some '\n' then text else text ++ ['\n']
  match Token.ofChars? closed with
  | some (tokens, _) => whole? Rule.moduleInput text.length tokens
  | none => none

/-- The tree of a text that is a single expression. -/
def ofExpression? (text : List Char) : Option Tree :=
  match Token.ofChars? text with
  | some (tokens, _) => whole? Rule.expressionInput text.length tokens
  | none => none

/-- The tree of an interactive statement.  Behind a logical line of simple statements only blanks and
comments may stand, and no other line may be joined to it any more. -/
def ofInteractive? (text : List Char) : Option Tree :=
  match Token.ofChars? text with
  | some ([.finish], _) => none
  | some (tokens, opened) =>
      let closed := Token.endInput tokens opened
      whole? Rule.interactiveBlock text.length closed <|>
        match Token.firstLine? text with
        | some (line, rest) =>
            if Token.isEmptyText rest then
              whole? Rule.interactiveLine text.length (line ++ [.finish])
            else none
        | none => whole? Rule.interactiveLine text.length closed
  | none => none

/-- The tree of the type of a function. -/
def ofFunctionType? (text : List Char) : Option Tree :=
  match Token.ofChars? text with
  | some (tokens, _) => whole? Rule.functionTypeInput text.length tokens
  | none => none

/-- The tree of a text in a given mode.  Line ends of any kind count as line feeds, and a text that
holds the character zero is never well formed. -/
def parse? (mode : Mode) (source : String) : Option Tree :=
  let text := Text.unifyLineEnds source.toList
  if text.contains '\x00' then none
  else
    match mode with
    | .auto => ofModule? text <|> ofExpression? text
    | .module => ofModule? text
    | .expression => ofExpression? text
    | .interactive => ofInteractive? text
    | .functionType => ofFunctionType? text

end Tree
end Snippet
end AnswerKey
