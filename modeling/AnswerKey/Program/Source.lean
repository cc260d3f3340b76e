import AnswerKey.Snippet.Parse

namespace AnswerKey
namespace Program

/-!
The text of a program: its tree, or why there is none.
-/

open Snippet

/-- Why a text is no program. -/
inductive Refusal where
  /-- The text holds the character zero. -/
  | zeroCharacter
  /-- A line is indented although the statements before it are complete. -/
  | unexpectedIndent
  | invalid
  /-- A statement stands where it has no meaning. -/
  | misplaced (word : String)
  deriving DecidableEq, Repr

namespace Refusal

/-- The name of the fault. -/
def className : Refusal → String
  | zeroCharacter => "ValueError"
  | unexpectedIndent => "IndentationError"
  | invalid => "SyntaxError"
  | misplaced _ => "SyntaxError"

/-- What is said of the fault. -/
def message : Refusal → String
  | zeroCharacter => "source code string cannot contain null bytes"
  | unexpectedIndent => "unexpected indent"
  | invalid => "invalid syntax"
  | misplaced "return" => "'return' outside function"
  | misplaced "continue" => "'continue' not properly in loop"
  | misplaced word => "'" ++ word ++ "' outside loop"

end Refusal

/-- Whether some tokens, with open blocks closed behind them, make up a module. -/
def isComplete (size : Nat) (tokens : List Token) (opened : Nat) : Bool :=
  (Tree.whole? Rule.moduleInput size
    (tokens ++ List.replicate opened .dedent ++ [.finish])).isSome

/-- Whether an indented line follows complete statements.  The tokens read so far come last first,
with the number of blocks that are open behind them. -/
def indentsWithoutCause (size : Nat) (seen : List Token) (opened : Nat) : List Token → Bool
  | [] => false
  | .indent :: rest =>
      isComplete size seen.reverse opened ||
        indentsWithoutCause size (.indent :: seen) (opened + 1) rest
  | .dedent :: rest => indentsWithoutCause size (.dedent :: seen) (opened - 1) rest
  | token :: rest => indentsWithoutCause size (token :: seen) opened rest

/-- Why a text that has no tree has none. -/
def refusalOf (text : List Char) : Refusal :=
  let closed := if text.getLast? = some '\n' then text else text ++ ['\n']
  match Token.ofChars? closed with
  | none => .invalid
  | some (tokens, _) =>
      if indentsWithoutCause text.length [] 0 tokens then .unexpectedIndent else .invalid

mutual

/-- The first statement of a module that has no meaning where it stands. -/
def misplacedIn? (inLoop : Bool) : Tree → Option String
  | .node .returnStatement _ => some "return"
  | .node .breakStatement _ => if inLoop then none else some "break"
  | .node .continueStatement _ => if inLoop then none else some "continue"
  | .node .whileStatement [_, body, alternative] =>
      misplacedInAny? true body <|> misplacedInAny? inLoop alternative
  | .node .ifStatement [_, body, alternative] =>
      misplacedInAny? inLoop body <|> misplacedInAny? inLoop alternative
  | .node (.withStatement _) [_, body] => misplacedInAny? inLoop body
  | .loop _ _ _ body alternative =>
      misplacedInAny? true body <|> misplacedInAny? inLoop alternative
  | .module body => misplacedInAny? inLoop body
  | _ => none

def misplacedInAny? (inLoop : Bool) : List Tree → Option String
  | [] => none
  | tree :: rest => misplacedIn? inLoop tree <|> misplacedInAny? inLoop rest

end

/-- Read the text of a program. -/
def read (source : String) : Except Refusal Tree :=
  if source.toList.contains '\x00' then .error .zeroCharacter
  else
    match Tree.parse? .module source with
    | none => .error (refusalOf (Text.unifyLineEnds source.toList))
    | some tree =>
        match misplacedIn? false tree with
        | some word => .error (.misplaced word)
        | none => .ok tree

end Program
end AnswerKey
