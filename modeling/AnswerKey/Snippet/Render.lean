import AnswerKey.Snippet.Dump
import AnswerKey.Snippet.Quoting

namespace AnswerKey
namespace Snippet

/-!
Trees written as source text.

Every expression is written for a place that demands a certain tightness; one that binds less
tightly is put into brackets.  Every statement starts with a line feed, and a definition with an
empty line, which are dropped at the start of the text.
-/

open Text

/-! ### Tightness

How tightly constructs bind, the loosest first. -/

namespace Tightness

def named : Nat := 1

def tuple : Nat := 2

def yield : Nat := 3

def test : Nat := 4

def or : Nat := 5

def and : Nat := 6

def not : Nat := 7

def compare : Nat := 8

def bitOr : Nat := 9

def bitXor : Nat := 10

def bitAnd : Nat := 11

def shift : Nat := 12

def sum : Nat := 13

def term : Nat := 14

def factor : Nat := 15

def power : Nat := 16

def await : Nat := 17

def atom : Nat := 18

/-- The next tighter one; nothing is tighter than an atom. -/
def next (tightness : Nat) : Nat :=
  min (tightness + 1) atom

end Tightness

def BoolOp.shown : BoolOp → String
  | and => "and"
  | or => "or"

def BoolOp.tightness : BoolOp → Nat
  | and => Tightness.and
  | or => Tightness.or

def BinaryOp.shown : BinaryOp → String
  | add => "+"
  | sub => "-"
  | mult => "*"
  | matMult => "@"
  | div => "/"
  | mod => "%"
  | leftShift => "<<"
  | rightShift => ">>"
  | bitOr => "|"
  | bitXor => "^"
  | bitAnd => "&"
  | floorDiv => "//"
  | pow => "**"

def BinaryOp.tightness : BinaryOp → Nat
  | add => Tightness.sum
  | sub => Tightness.sum
  | leftShift => Tightness.shift
  | rightShift => Tightness.shift
  | bitOr => Tightness.bitOr
  | bitXor => Tightness.bitXor
  | bitAnd => Tightness.bitAnd
  | pow => Tightness.power
  | _ => Tightness.term

/-- What an operator demands of its operands: the one it associates with may bind as it does. -/
def BinaryOp.operandTightness (op : BinaryOp) : Nat × Nat :=
  match op with
  | pow => (Tightness.next op.tightness, op.tightness)
  | _ => (op.tightness, Tightness.next op.tightness)

/-- An operator in front of its operand, with the gap it needs. -/
def UnaryOp.shown : UnaryOp → String
  | invert => "~"
  | not => "not "
  | plus => "+"
  | minus => "-"

def UnaryOp.tightness : UnaryOp → Nat
  | not => Tightness.not
  | _ => Tightness.factor

def CompareOp.shown : CompareOp → String
  | eq => "=="
  | notEq => "!="
  | lt => "<"
  | ltE => "<="
  | gt => ">"
  | gtE => ">="
  | is => "is"
  | isNot => "is not"
  | isIn => "in"
  | notIn => "not in"

def Conversion.shown : Conversion → String
  | str => "!s"
  | repr => "!r"
  | ascii => "!a"

namespace Render

/-! ### Texts of small parts -/

def codesOf (text : String) : List Nat :=
  text.toList.map Char.toNat

def commas (items : List String) : String :=
  ", ".intercalate items

/-- Items of a tuple: a single one has a comma behind it. -/
def tupleItems : List String → String
  | [single] => single ++ ","
  | items => commas items

def bracketIf (condition : Bool) (text : String) : String :=
  if condition then "(" ++ text ++ ")" else text

/-- Each text of an optional part behind an introduction. -/
def after (introduction : String) (part : List String) : String :=
  String.join (part.map (introduction ++ ·))

/-- Where a tree is written. -/
structure Setting where
  /-- Whether the tree stands in a replacement field, where escapes are to be avoided. -/
  inField : Bool
  /-- How many blocks are open. -/
  indent : Nat

namespace Setting

def inside (setting : Setting) : Setting :=
  { setting with indent := setting.indent + 1 }

/-- A new line with a text. -/
def line (setting : Setting) (text : String) : String :=
  "\n" ++ .ofList (List.replicate (4 * setting.indent) ' ') ++ text

end Setting

/-- Doubles in source text: what is too great is written as a power of ten that is too great. -/
def sourceLayout : Decimal.Layout :=
  { Decimal.Layout.plain with infinity := "1e309" }

def stringText (setting : Setting) (codes : List Nat) : String :=
  .ofList
    (if setting.inField then Quoting.write Quoting.quotes codes else Quoted.encodeCodes codes)

/-- The source text of a literal. -/
def constantText (setting : Setting) (value : Constant) : Except WritingFault String :=
  match value with
  | .ellipsis => pure "..."
  | .float x => pure (sourceLayout.write x)
  | .imaginary x => pure ({ sourceLayout with keepsPoint := false }.write x ++ "j")
  | .str codes marked => pure ((if marked then "u" else "") ++ stringText setting codes)
  | _ => if value.isTooLong then .error .integerTooLong else pure value.display

/-- A documentation string. -/
def docstringText (codes : List Nat) (marked : Bool) : String :=
  (if marked then "u" else "") ++ .ofList (Quoting.write Quoting.longQuotes codes)

/-- The string a statement consists of, if that is all it is. -/
def docstring? : Tree → Option (List Nat × Bool)
  | .node .expr [[.constant (.str codes marked)]] => some (codes, marked)
  | _ => none

/-- Whether an attribute of a value needs a gap in front of its point. -/
def needsGap : Tree → Bool
  | .constant (.int _) => true
  | .constant (.bool _) => true
  | _ => false

/-- Whether the target of a type hint is a name. -/
def isName : Tree → Bool
  | .name _ _ => true
  | _ => false

/-- Default values behind the parameters that have one. -/
def withDefaults : List Bool → List String → List String → List String
  | true :: flags, parameter :: parameters, default :: defaults =>
      (parameter ++ "=" ++ default) :: withDefaults flags parameters defaults
  | _ :: flags, parameter :: parameters, defaults =>
      parameter :: withDefaults flags parameters defaults
  | _, _, _ => []

/-- A parameter list. -/
def parametersText (layout : ParameterLayout)
    (parameters defaults keywordDefaults : List String) : String :=
  let count := layout.positionalOnly + layout.positional
  let flags := List.replicate (count - defaults.length) false ++
    List.replicate defaults.length true
  let positional := withDefaults flags (parameters.take count) defaults
  let variadic := parameters.drop count
  let only := variadic.drop (if layout.variadic then 1 else 0)
  let rest := only.drop layout.keywordOnly.length
  let slash := if layout.positionalOnly = 0 then [] else ["/"]
  let star :=
    if layout.variadic then (variadic.take 1).map ("*" ++ ·)
    else if layout.keywordOnly.isEmpty then [] else ["*"]
  commas
    (positional.take layout.positionalOnly ++ slash ++ positional.drop layout.positionalOnly ++
      star ++ withDefaults layout.keywordOnly only keywordDefaults ++
      (if layout.keywordRest then rest.map ("**" ++ ·) else []))

/-- Entries of a dictionary; a value without a key is a mapping that is taken whole. -/
def entries : List Bool → List String → List String → List String
  | true :: flags, key :: keys, value :: values =>
      (key ++ ": " ++ value) :: entries flags keys values
  | _ :: flags, keys, value :: values => ("**" ++ value) :: entries flags keys values
  | _, _, _ => []

/-- The brackets of a comprehension. -/
def brackets : ComprehensionKind → String × String
  | .list => ("[", "]")
  | .generator => ("(", ")")
  | _ => ("\x7b", "\x7d")

def aliasText (names : Alias) : String :=
  names.name ++ after " as " names.boundAs.toList

/-- Comparison operators in front of their right operands. -/
def comparisons : List CompareOp → List String → String
  | op :: ops, operand :: operands =>
      " " ++ op.shown ++ " " ++ operand ++ comparisons ops operands
  | _, _ => ""

/-- Literal text of a formatted literal, in which braces are doubled. -/
def doubleBraces (codes : List Nat) : List Nat :=
  codes.flatMap fun code => if code = 0x7b ∨ code = 0x7d then [code, code] else [code]

/-- A replacement field.  An expression that starts with a brace is set off from that of the
field. -/
def fieldCodes (shown : String) (conversion : Option Conversion) (format : Option (List Nat)) :
    Except WritingFault (List Nat) :=
  let codes := codesOf shown
  if codes.contains '\\'.toNat then .error .backslashInField
  else
    let gap := if codes.head? = some 0x7b then [0x20] else []
    let mark := codesOf (after "" (conversion.toList.map Conversion.shown))
    let behind :=
      match format with
      | some codes => 0x3a :: codes
      | none => []
    .ok (0x7b :: gap ++ codes ++ mark ++ behind ++ [0x7d])

/-- A formatted literal from its parts. -/
def joinedText (setting : Setting) (parts : List (List Nat × Bool)) : String :=
  "f" ++ .ofList
    (if setting.inField then Quoting.write Quoting.quotes (parts.flatMap (·.1))
      else Quoting.writeParts parts)

end Render

/-! ### Trees -/

open Render

mutual

/-- Write a tree for a place that demands a given tightness. -/
def render (setting : Setting) (demand : Nat) : Tree → Except WritingFault String
  | .name id _ => pure id
  | .constant value => constantText setting value
  | .slice lower upper step => do
      let lower ← renderAll setting Tightness.test lower
      let upper ← renderAll setting Tightness.test upper
      let step ← renderAll setting Tightness.test step
      pure (String.join lower ++ ":" ++ String.join upper ++ after ":" step)
  | .parameter id hint => do
      pure (id ++ after ": " (← renderAll setting Tightness.test hint))
  | .lambda layout parameters defaults keywordDefaults body => do
      let parameters ← renderAll setting Tightness.test parameters
      let defaults ← renderAll setting Tightness.test defaults
      let keywordDefaults ← renderAll setting Tightness.test keywordDefaults
      let body ← render setting Tightness.test body
      let shown := parametersText layout parameters defaults keywordDefaults
      pure (bracketIf (Tightness.test < demand)
        ("lambda" ++ (if shown.isEmpty then "" else " " ++ shown) ++ ": " ++ body))
  | .function isAsync id layout decorators parameters defaults keywordDefaults returns body => do
      let decorators ← renderAll setting Tightness.test decorators
      let parameters ← renderAll setting Tightness.test parameters
      let defaults ← renderAll setting Tightness.test defaults
      let keywordDefaults ← renderAll setting Tightness.test keywordDefaults
      let returns ← renderAll setting Tightness.test returns
      let body ← renderBody setting.inside body
      pure ("\n" ++ String.join (decorators.map fun shown => setting.line ("@" ++ shown)) ++
        setting.line ((if isAsync then "async def " else "def ") ++ id ++ "(" ++
          parametersText layout parameters defaults keywordDefaults ++ ")" ++
          after " -> " returns ++ ":") ++ body)
  | .classDef id decorators bases keywords body => do
      let decorators ← renderAll setting Tightness.test decorators
      let bases ← renderAll setting Tightness.test bases
      let keywords ← renderAll setting Tightness.test keywords
      let body ← renderBody setting.inside body
      let items := bases ++ keywords
      pure ("\n" ++ String.join (decorators.map fun shown => setting.line ("@" ++ shown)) ++
        setting.line ("class " ++ id ++ bracketIf (!items.isEmpty) (commas items) ++ ":") ++ body)
  | .comprehension kind results clauses => do
      let results ← renderAll setting Tightness.test results
      let clauses ← renderAll setting Tightness.test clauses
      let (opening, closing) := brackets kind
      pure (opening ++ ": ".intercalate results ++ String.join clauses ++ closing)
  | .clause isAsync target iterable conditions => do
      let target ← render setting Tightness.tuple target
      let iterable ← render setting Tightness.or iterable
      let conditions ← renderAll setting Tightness.or conditions
      pure ((if isAsync then " async for " else " for ") ++ target ++ " in " ++ iterable ++
        after " if " conditions)
  | .loop isAsync target iterable body alternative => do
      let target ← render setting Tightness.tuple target
      let iterable ← render setting Tightness.test iterable
      let body ← renderAll setting.inside Tightness.test body
      let alternative ← renderBlock setting "else" alternative
      pure (setting.line ((if isAsync then "async for " else "for ") ++ target ++ " in " ++
        iterable ++ ":") ++ String.join body ++ alternative)
  | .module body => renderBody setting body
  | .expression body => render setting Tightness.test body
  -- expressions
  | .node (.boolean op) [operands] => do
      let operands ← renderOperands setting (Tightness.next op.tightness) operands
      pure (bracketIf (op.tightness < demand) ((" " ++ op.shown ++ " ").intercalate operands))
  | .node .named [[target], [value]] => do
      let target ← render setting Tightness.atom target
      let value ← render setting Tightness.atom value
      pure (bracketIf (Tightness.named < demand) (target ++ " := " ++ value))
  | .node (.binary op) [[left], [right]] => do
      let left ← render setting op.operandTightness.1 left
      let right ← render setting op.operandTightness.2 right
      pure (bracketIf (op.tightness < demand) (left ++ " " ++ op.shown ++ " " ++ right))
  | .node (.unary op) [[operand]] => do
      let operand ← render setting op.tightness operand
      pure (bracketIf (op.tightness < demand) (op.shown ++ operand))
  | .node .conditional [[test], [body], [alternative]] => do
      let body ← render setting Tightness.or body
      let test ← render setting Tightness.or test
      let alternative ← render setting Tightness.test alternative
      pure (bracketIf (Tightness.test < demand)
        (body ++ " if " ++ test ++ " else " ++ alternative))
  | .node (.dict keyed) [keys, values] => do
      let keys ← renderAll setting Tightness.test keys
      let values ← renderValues setting keyed values
      pure ("\x7b" ++ commas (entries keyed keys values) ++ "\x7d")
  | .node .set [elements] => do
      let elements ← renderAll setting Tightness.test elements
      pure ("\x7b" ++ (if elements.isEmpty then "*()" else commas elements) ++ "\x7d")
  | .node .await [[value]] => do
      let value ← render setting Tightness.atom value
      pure (bracketIf (Tightness.await < demand) ("await " ++ value))
  | .node .yield [value] => do
      let value ← renderAll setting Tightness.atom value
      pure (bracketIf (Tightness.yield < demand) ("yield" ++ after " " value))
  | .node .yieldFrom [[value]] => do
      let value ← render setting Tightness.atom value
      pure (bracketIf (Tightness.yield < demand) ("yield from " ++ value))
  | .node (.compare ops) [[left], operands] => do
      let left ← render setting (Tightness.next Tightness.compare) left
      let operands ← renderAll setting (Tightness.next Tightness.compare) operands
      pure (bracketIf (Tightness.compare < demand) (left ++ comparisons ops operands))
  | .node .call [[function], arguments, keywords] => do
      let function ← render setting Tightness.atom function
      let arguments ← renderAll setting Tightness.test arguments
      let keywords ← renderAll setting Tightness.test keywords
      pure (function ++ "(" ++ commas (arguments ++ keywords) ++ ")")
  | .node (.keyword id) [[value]] => do
      let value ← render setting Tightness.test value
      pure ((match id with
        | some id => id ++ "="
        | none => "**") ++ value)
  | .node .joined [pieces] => do
      pure (joinedText setting (← renderPieces setting pieces))
  | .node (.attribute id _) [[value]] => do
      let shown ← render setting Tightness.atom value
      pure (shown ++ (if needsGap value then " ." else ".") ++ id)
  | .node (.subscript _) [[value], index] => do
      let value ← render setting Tightness.atom value
      let index ← renderIndex setting index
      pure (value ++ "[" ++ index ++ "]")
  | .node (.starred _) [[value]] => do
      pure ("*" ++ (← render setting Tightness.bitOr value))
  | .node (.list _) [elements] => do
      pure ("[" ++ commas (← renderAll setting Tightness.test elements) ++ "]")
  | .node (.tuple _) [elements] => do
      let elements ← renderAll setting Tightness.test elements
      pure (bracketIf (elements.isEmpty || Tightness.tuple < demand) (tupleItems elements))
  -- statements
  | .node .expr [[value]] => do
      pure (setting.line (← render setting Tightness.yield value))
  | .node .returnStatement [value] => do
      pure (setting.line ("return" ++ after " " (← renderAll setting Tightness.test value)))
  | .node .deleteStatement [targets] => do
      pure (setting.line ("del " ++ commas (← renderAll setting Tightness.test targets)))
  | .node .assign [targets, [value]] => do
      let targets ← renderAll setting Tightness.tuple targets
      let value ← render setting Tightness.test value
      pure (setting.line (String.join (targets.map (· ++ " = ")) ++ value))
  | .node (.augmented op) [[target], [value]] => do
      let target ← render setting Tightness.test target
      let value ← render setting Tightness.test value
      pure (setting.line (target ++ " " ++ op.shown ++ "= " ++ value))
  | .node (.annotated simple) [[target], [hint], value] => do
      let shown ← render setting Tightness.test target
      let hint ← render setting Tightness.test hint
      let value ← renderAll setting Tightness.test value
      pure (setting.line (bracketIf (!simple && isName target) shown ++ ": " ++ hint ++
        after " = " value))
  | .node .whileStatement [[test], body, alternative] => do
      let test ← render setting Tightness.test test
      let body ← renderAll setting.inside Tightness.test body
      let alternative ← renderBlock setting "else" alternative
      pure (setting.line ("while " ++ test ++ ":") ++ String.join body ++ alternative)
  | .node .ifStatement [[test], body, alternative] => do
      let test ← render setting Tightness.test test
      let body ← renderAll setting.inside Tightness.test body
      let alternative ← renderAlternative setting alternative
      pure (setting.line ("if " ++ test ++ ":") ++ String.join body ++ alternative)
  | .node (.withStatement isAsync) [items, body] => do
      let items ← renderAll setting Tightness.test items
      let body ← renderAll setting.inside Tightness.test body
      pure (setting.line ((if isAsync then "async with " else "with ") ++ commas items ++ ":") ++
        String.join body)
  | .node .withItem [[manager], target] => do
      let manager ← render setting Tightness.test manager
      pure (manager ++ after " as " (← renderAll setting Tightness.test target))
  | .node .matchStatement [[subject], cases] => do
      let subject ← render setting Tightness.test subject
      let cases ← renderAll setting.inside Tightness.test cases
      pure (setting.line ("match " ++ subject ++ ":") ++ String.join cases)
  | .node .caseBlock [[pattern], guard, body] => do
      let pattern ← render setting Tightness.test pattern
      let guard ← renderAll setting Tightness.test guard
      let body ← renderAll setting.inside Tightness.test body
      pure (setting.line ("case " ++ pattern ++ after " if " guard ++ ":") ++ String.join body)
  | .node .raiseStatement [exception, cause] => do
      let exception ← renderAll setting Tightness.test exception
      let cause ← renderAll setting Tightness.test cause
      pure (setting.line ("raise" ++ after " " exception ++ after " from " cause))
  | .node (.tryStatement isGroup) [body, handlers, alternative, final] => do
      let body ← renderAll setting.inside Tightness.test body
      let handlers ← renderHandlers setting (if isGroup then "except*" else "except") handlers
      let alternative ← renderBlock setting "else" alternative
      let final ← renderBlock setting "finally" final
      pure (setting.line "try:" ++ String.join body ++ handlers ++ alternative ++ final)
  | .node .assertStatement [[test], message] => do
      let test ← render setting Tightness.test test
      pure (setting.line ("assert " ++ test ++
        after ", " (← renderAll setting Tightness.test message)))
  | .node (.importStatement names) _ =>
      pure (setting.line ("import " ++ commas (names.map aliasText)))
  | .node (.importFrom source names level) _ =>
      pure (setting.line ("from " ++ .ofList (List.replicate level '.') ++ source.getD "" ++
        " import " ++ commas (names.map aliasText)))
  | .node (.globalStatement names) _ => pure (setting.line ("global " ++ commas names))
  | .node (.nonlocalStatement names) _ => pure (setting.line ("nonlocal " ++ commas names))
  | .node .passStatement _ => pure (setting.line "pass")
  | .node .breakStatement _ => pure (setting.line "break")
  | .node .continueStatement _ => pure (setting.line "continue")
  -- patterns
  | .node .matchValue [[value]] => render setting Tightness.test value
  | .node (.matchSingleton value) _ => pure value.display
  | .node .matchSequence [items] => do
      pure ("[" ++ commas (← renderAll setting Tightness.test items) ++ "]")
  | .node (.matchMapping rest) [keys, values] => do
      let keys ← renderAll setting Tightness.test keys
      let values ← renderAll setting Tightness.test values
      let items := List.zipWith (fun key value => key ++ ": " ++ value) keys values
      pure ("\x7b" ++ commas (items ++ rest.toList.map ("**" ++ ·)) ++ "\x7d")
  | .node (.matchClass attributes) [[subject], items, named] => do
      let subject ← render setting Tightness.atom subject
      let items ← renderAll setting Tightness.test items
      let named ← renderAll setting Tightness.test named
      pure (subject ++ "(" ++
        commas (items ++ List.zipWith (fun id value => id ++ "=" ++ value) attributes named) ++ ")")
  | .node (.matchStar id) _ => pure ("*" ++ id.getD "_")
  | .node (.matchAs none) _ => pure "_"
  | .node (.matchAs (some id)) [[]] => pure id
  | .node (.matchAs (some id)) [[pattern]] => do
      let pattern ← render setting Tightness.bitOr pattern
      pure (bracketIf (Tightness.test < demand) (pattern ++ " as " ++ id))
  | .node .matchOr [patterns] => do
      let patterns ← renderAll setting (Tightness.next Tightness.bitOr) patterns
      pure (bracketIf (Tightness.bitOr < demand) (" | ".intercalate patterns))
  -- whole inputs
  | .node .functionType [parameters, [result]] => do
      let parameters ← renderAll setting Tightness.test parameters
      let result ← render setting Tightness.test result
      pure ("(" ++ commas parameters ++ ") -> " ++ result)
  | .node .interactive [body] => do
      pure ((← renderAll setting Tightness.test body).getLastD "")
  | .node _ _ => pure ""

/-- Write some trees, all for places that demand the same. -/
def renderAll (setting : Setting) (demand : Nat) : List Tree → Except WritingFault (List String)
  | [] => pure []
  | tree :: rest => do
      let shown ← render setting demand tree
      let others ← renderAll setting demand rest
      pure (shown :: others)

/-- Write operands of one Boolean operator, each for a tighter place than the one before. -/
def renderOperands (setting : Setting) (demand : Nat) :
    List Tree → Except WritingFault (List String)
  | [] => pure []
  | tree :: rest => do
      let shown ← render setting demand tree
      let others ← renderOperands setting (Tightness.next demand) rest
      pure (shown :: others)

/-- Write the values of a dictionary; one without a key stands behind two stars. -/
def renderValues (setting : Setting) (keyed : List Bool) :
    List Tree → Except WritingFault (List String)
  | [] => pure []
  | tree :: rest => do
      let demand := if keyed.headD true then Tightness.test else Tightness.bitOr
      let shown ← render setting demand tree
      let others ← renderValues setting (keyed.drop 1) rest
      pure (shown :: others)

/-- Write an index; a tuple that is not empty needs no brackets. -/
def renderIndex (setting : Setting) : List Tree → Except WritingFault String
  | [] => pure ""
  | .node (.tuple _) [elements] :: _ => do
      let elements ← renderAll setting Tightness.test elements
      pure (if elements.isEmpty then "()" else tupleItems elements)
  | tree :: _ => render setting Tightness.test tree

/-- Write the statements of a module, a function or a class, the first of which may be its
documentation. -/
def renderBody (setting : Setting) : List Tree → Except WritingFault String
  | [] => pure ""
  | first :: rest => do
      let shown ←
        match docstring? first with
        | some (codes, marked) => pure (setting.line (docstringText codes marked))
        | none => render setting Tightness.test first
      let others ← renderAll setting Tightness.test rest
      pure (shown ++ String.join others)

/-- Write a block behind a keyword, if there are statements in it. -/
def renderBlock (setting : Setting) (shown : String) : List Tree → Except WritingFault String
  | [] => pure ""
  | first :: rest => do
      let first ← render setting.inside Tightness.test first
      let others ← renderAll setting.inside Tightness.test rest
      pure (setting.line (shown ++ ":") ++ first ++ String.join others)

/-- Write what is done when a test fails; a lone test goes on in the same chain. -/
def renderAlternative (setting : Setting) : List Tree → Except WritingFault String
  | [] => pure ""
  | [.node .ifStatement [[test], body, alternative]] => do
      let test ← render setting Tightness.test test
      let body ← renderAll setting.inside Tightness.test body
      let alternative ← renderAlternative setting alternative
      pure (setting.line ("elif " ++ test ++ ":") ++ String.join body ++ alternative)
  | first :: rest => do
      let first ← render setting.inside Tightness.test first
      let others ← renderAll setting.inside Tightness.test rest
      pure (setting.line "else:" ++ first ++ String.join others)

/-- Write handlers, each behind the given keyword. -/
def renderHandlers (setting : Setting) (shown : String) : List Tree → Except WritingFault String
  | [] => pure ""
  | .node (.handler id) [kind, body] :: rest => do
      let kind ← renderAll setting Tightness.test kind
      let body ← renderAll setting.inside Tightness.test body
      let others ← renderHandlers setting shown rest
      pure (setting.line (shown ++ after " " kind ++ after " as " id.toList ++ ":") ++
        String.join body ++ others)
  | _ :: rest => renderHandlers setting shown rest

/-- Write the pieces of a formatted literal; the flag tells literal text from fields. -/
def renderPieces (setting : Setting) :
    List Tree → Except WritingFault (List (List Nat × Bool))
  | [] => pure []
  | .constant (.str codes _) :: rest => do
      let others ← renderPieces setting rest
      pure ((doubleBraces codes, true) :: others)
  | .node (.interpolation conversion) [[value], []] :: rest => do
      let shown ← render ⟨true, 0⟩ Tightness.or value
      let codes ← fieldCodes shown conversion none
      let others ← renderPieces setting rest
      pure ((codes, false) :: others)
  | .node (.interpolation conversion) [[value], [.node .joined [format]]] :: rest => do
      let shown ← render ⟨true, 0⟩ Tightness.or value
      let format ← renderPieces setting format
      let codes ← fieldCodes shown conversion (some (format.flatMap (·.1)))
      let others ← renderPieces setting rest
      pure ((codes, false) :: others)
  | _ :: rest => renderPieces setting rest

end

namespace Tree

/-- A tree as source text. -/
def render? (tree : Tree) : Except WritingFault String :=
  (render ⟨false, 0⟩ Tightness.test tree).map fun shown =>
    .ofList (shown.toList.dropWhile (· = '\n'))

end Tree
end Snippet
end AnswerKey
